import UtilityCss.Conversion.Through
import UtilityCss.Proofs.Entries
import UtilityCss.Proofs.Resolve.Table

namespace UtilityCss
open Css

variable {n : Nat} (contexts : Fin n → Context)

theorem ScaleName.ofText?_text (scale : ScaleName) : ofText? scale.text = some scale := by
  cases scale <;> decide

namespace Cache

def Trusted (contexts : Fin n → Context) (cache : Cache) : Prop := ∀ calls, Sound contexts calls cache

theorem new_trusted (enabled : Bool) : Trusted contexts (new enabled) :=
  fun calls => new_sound contexts calls enabled

theorem resolve_named (cache : Cache) (owner : Nat) (ctx : Context) (scale : ScaleName) (value : String) :
    cache.resolveNamed owner ctx scale.text value = cache.resolve owner ctx scale value := by
  rw [resolveNamed, ScaleName.ofText?_text]

theorem resolve_trusted (cache : Cache) (trusted : Trusted contexts cache) (owner : Fin n) (scale : ScaleName)
    (value : String) :
    (cache.resolve owner (contexts owner) scale value).1 = UtilityCss.resolve (contexts owner) scale value ∧
      Trusted contexts (cache.resolve owner (contexts owner) scale value).2 := by
  have called := List.mem_singleton_self (CacheStep.resolve owner scale.text value)
  have answer := resolveNamed_answer contexts _ cache (trusted _) owner scale.text value called
  have kept := fun calls => resolveNamed_sound contexts calls cache (trusted calls) owner scale.text value
  rw [UtilityCss.resolveNamed, ScaleName.ofText?_text] at answer
  simp only [resolve_named] at answer kept
  exact ⟨answer, kept⟩

theorem step_trusted (cache : Cache) (trusted : Trusted contexts cache) (action : CacheStep n)
    (labelled : ∀ key verdict, action = .put key verdict → ∃ label, key = .label label) :
    Trusted contexts (cache.step contexts action).2 := by
  intro calls
  cases action with
  -- What is put under a label is never under the key of a question.
  | put key stored =>
    obtain ⟨label, rfl⟩ := labelled key stored rfl
    intro owner scale value asked other keyed verdict found
    rcases find_put _ _ _ _ _ found with ⟨rfl, _⟩ | old
    · exact absurd keyed (lookupKey_ne_label _ _ _ _ _)
    · exact trusted calls owner scale value asked other keyed verdict old
  | resolve owner scale value => exact resolveNamed_sound contexts calls cache (trusted calls) owner scale value
  | get key => exact sound_of_entries _ _ _ _ (trusted calls) (get_entries cache key)
  | clear => exact new_sound contexts calls cache.enabled

end Cache

open Cache

theorem Inquiry.through_trusted {α : Type} (inquiry : Inquiry α) (owner : Fin n) (cache : Cache)
    (trusted : Trusted contexts cache) :
    (inquiry.through owner (contexts owner) cache).1 = inquiry.judged (contexts owner) ∧
      Trusted contexts (inquiry.through owner (contexts owner) cache).2 := by
  -- Each answer is that of the resolver and leaves a table that gives no other, so the next question meets one
  -- again.
  induction inquiry generalizing cache with
  | done result => exact ⟨rfl, trusted⟩
  | ask scale value next ih =>
    obtain ⟨answer, kept⟩ := resolve_trusted contexts cache trusted owner scale value
    rw [through, judged, ← answer]
    exact ih _ _ kept

theorem handler?_mapValues {α β : Type} (f : α → β) (handlers : Entries String α) (property value : String) :
    handler? (Entries.mapValues f handlers) property value = (handler? handlers property value).map f := by
  unfold handler?
  rw [Entries.find?_mapValues]
  split <;> rfl

theorem Askers.matchDeclaration_judged (askers : Askers) (ctx : Context) (property value : String) :
    (askers.matchDeclaration ctx property value).judged ctx =
      askers.registry.matchDeclaration ctx property value := by
  unfold matchDeclaration Registry.matchDeclaration registry
  rw [handler?_mapValues]
  cases handler? askers property value with
  | none => rfl
  | some asker => exact Inquiry.judged_bind _ _

theorem Contribution.ask_judged (askers : Askers) (ctx : Context) (d : Declaration) :
    (ask askers ctx d).judged ctx = Contribution.of askers.registry ctx d := by
  unfold ask Contribution.of
  rw [← askers.matchDeclaration_judged, Askers.registry, Entries.find?_mapValues, Option.isNone_map]
  simp only [Inquiry.judged_ite, Inquiry.judged_bind, Inquiry.judged_pure]

namespace Conversion

theorem through_trusted (askers : Askers) (owner : Fin n) (declarations : List Declaration) (advice : List String)
    (cache : Cache) (trusted : Trusted contexts cache) :
    (through askers owner (contexts owner) declarations advice cache).1 =
        assemble (contexts owner) declarations
          (declarations.map (Contribution.of askers.registry (contexts owner))) advice ∧
      Trusted contexts (through askers owner (contexts owner) declarations advice cache).2 := by
  obtain ⟨same, kept⟩ :=
    Inquiry.through_trusted contexts (Inquiry.each (Contribution.ask askers (contexts owner)) declarations) owner cache trusted
  simp only [Inquiry.judged_each, Contribution.ask_judged] at same
  rw [through, same]
  exact ⟨rfl, kept⟩

theorem ofDeclarationsThrough_as_uncached (askers : Askers) (owner : Fin n) (declarations : List Declaration)
    (cache : Cache) (trusted : Trusted contexts cache) :
    (ofDeclarationsThrough askers owner (contexts owner) declarations cache).1 =
      ofDeclarations askers.registry (contexts owner) declarations :=
  (through_trusted contexts askers owner declarations [] cache trusted).1

theorem ofRuleThrough_as_uncached (askers : Askers) (owner : Fin n) (rule : Rule) (cache : Cache)
    (trusted : Trusted contexts cache) :
    (ofRuleThrough askers owner (contexts owner) rule cache).1 = ofRule askers.registry (contexts owner) rule ∧
      Trusted contexts (ofRuleThrough askers owner (contexts owner) rule cache).2 :=
  through_trusted contexts askers owner rule.declarations (advisories rule.selector) cache trusted

end Conversion

namespace Sheet

theorem placeThrough_trusted (askers : Askers) (owner : Fin n) (rules : List Rule)
    (entries : Entries String Conversion) (cache : Cache) (trusted : Trusted contexts cache) :
    (placeThrough askers owner (contexts owner) rules entries cache).1 =
        rules.foldlM (fun entries rule => do
          return Entries.put rule.selector (← Conversion.ofRule askers.registry (contexts owner) rule) entries)
          entries ∧
      Trusted contexts (placeThrough askers owner (contexts owner) rules entries cache).2 := by
  induction rules generalizing entries cache with
  | nil => exact ⟨rfl, trusted⟩
  | cons rule rest ih =>
    obtain ⟨same, kept⟩ := Conversion.ofRuleThrough_as_uncached contexts askers owner rule cache trusted
    rw [placeThrough, List.foldlM_cons, ← same]
    cases converted : Conversion.ofRuleThrough askers owner (contexts owner) rule cache with
    | mk answer after =>
      rw [converted] at kept
      cases answer with
      | error fault => exact ⟨rfl, kept⟩
      | ok conversion => exact ih _ after kept

theorem ofRulesThrough_as_uncached (askers : Askers) (owner : Fin n) (rules : List Rule) (cache : Cache)
    (trusted : Trusted contexts cache) :
    (ofRulesThrough askers owner (contexts owner) rules cache).1 =
        ofRules askers.registry (contexts owner) rules ∧
      Trusted contexts (ofRulesThrough askers owner (contexts owner) rules cache).2 := by
  obtain ⟨same, kept⟩ := placeThrough_trusted contexts askers owner rules [] cache trusted
  rw [ofRulesThrough, same, ofRules]
  exact ⟨rfl, kept⟩

theorem run_as_uncached (askers : Askers) (ctx : Context) (rules : List Rule) :
    run askers ctx rules = ofRules askers.registry ctx rules :=
  (ofRulesThrough_as_uncached (fun _ : Fin 1 => ctx) askers 0 rules _ (new_trusted _ ctx.cached)).1

def Job.uncached (askers : Askers) (contexts : Fin n → Context) : Job n → Option (Except Error Sheet)
  | .table _ => none
  | .convert owner rules => some (ofRules askers.registry (contexts owner) rules)

-- Sheets under contexts that differ in anything, with one table between them that is also asked, filled under
-- labels and cleared meanwhile.
theorem session_as_uncached (askers : Askers) (jobs : List (Job n)) (enabled : Bool)
    (labelled : ∀ key verdict, .table (.put key verdict) ∈ jobs → ∃ label, key = .label label) :
    session askers contexts jobs (new enabled) = jobs.map (Job.uncached askers contexts) := by
  suffices run : ∀ cache, Trusted contexts cache →
      session askers contexts jobs cache = jobs.map (Job.uncached askers contexts) from
    run _ (new_trusted contexts enabled)
  induction jobs with
  | nil => exact fun _ _ => rfl
  | cons job rest ih =>
    intro cache trusted
    have later := ih fun key verdict member => labelled key verdict (List.mem_cons_of_mem _ member)
    rw [List.map_cons]
    cases job with
    | table action =>
      have kept := step_trusted contexts cache trusted action fun key verdict put =>
        labelled key verdict (put ▸ List.mem_cons_self)
      rw [session, later _ kept, Job.uncached]
    | convert owner rules =>
      obtain ⟨same, kept⟩ := ofRulesThrough_as_uncached contexts askers owner rules cache trusted
      rw [session, same, later _ kept, Job.uncached]

end Sheet

theorem Review.run_as_uncached (askers : Askers) (ctx : Context) (rules : List Rule) :
    run askers ctx rules = Review.of askers.registry ctx rules := by
  let contexts : Fin 2 → Context := fun i => if i = 0 then ctx.asStrict else ctx.asApproximate
  let own := Cache.new ctx.cached
  have one := Sheet.ofRulesThrough_as_uncached contexts askers 0 rules own (new_trusted _ _)
  have two := Sheet.ofRulesThrough_as_uncached contexts askers 1 rules _ one.2
  have strict : (Sheet.ofRulesThrough askers 0 ctx.asStrict rules own).1 =
      Sheet.ofRules askers.registry ctx.asStrict rules := one.1
  have approximate : (Sheet.ofRulesThrough askers 1 ctx.asApproximate rules
      (Sheet.ofRulesThrough askers 0 ctx.asStrict rules own).2).1 =
        Sheet.ofRules askers.registry ctx.asApproximate rules := two.1
  simp only [run, strict, approximate, own, Review.of]

end UtilityCss
