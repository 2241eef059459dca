import UtilityCss.Conversion.Sheet
import UtilityCss.Proofs.Distinct
import UtilityCss.Proofs.Entries
import UtilityCss.Proofs.Traversal

namespace UtilityCss.Sheet

def place (registry : Registry) (ctx : Context) (entries : Entries String Conversion) (rule : Css.Rule) :
    Except Error (Entries String Conversion) := do
  return Entries.put rule.selector (← Conversion.ofRule registry ctx rule) entries

theorem place_eq_ok_iff (registry : Registry) (ctx : Context) (entries after : Entries String Conversion)
    (rule : Css.Rule) : place registry ctx entries rule = .ok after ↔
      ∃ conversion, Conversion.ofRule registry ctx rule = .ok conversion ∧
        Entries.put rule.selector conversion entries = after := by
  rw [place, bind_eq_ok_iff]
  constructor
  · rintro ⟨conversion, returns, made⟩
    cases made
    exact ⟨conversion, returns, rfl⟩
  · rintro ⟨conversion, returns, rfl⟩
    exact ⟨conversion, returns, rfl⟩

theorem ofRules_run (registry : Registry) (ctx : Context) (rules : List Css.Rule) (sheet : Sheet)
    (returns : ofRules registry ctx rules = .ok sheet) :
    rules.foldlM (place registry ctx) [] = .ok sheet.bySelector := by
  rw [ofRules, bind_eq_ok_iff] at returns
  obtain ⟨entries, run, made⟩ := returns
  cases made
  exact run

def lastRule? (selector : String) (rules : List Css.Rule) : Option Css.Rule :=
  rules.findRev? (·.selector == selector)

theorem lastRule?_found (selector : String) (rules : List Css.Rule) (rule : Css.Rule)
    (found : lastRule? selector rules = some rule) : rule ∈ rules ∧ rule.selector = selector := by
  rw [lastRule?, List.findRev?_eq_find?_reverse] at found
  have same := List.find?_some found
  exact ⟨List.mem_reverse.mp (List.mem_of_find?_eq_some found), eq_of_beq same⟩

theorem lastRule?_concat (selector : String) (rules : List Css.Rule) (rule : Css.Rule) :
    lastRule? selector (rules ++ [rule]) =
      if rule.selector = selector then some rule else lastRule? selector rules := by
  unfold lastRule?
  rw [List.findRev?_eq_find?_reverse, List.findRev?_eq_find?_reverse, List.reverse_concat, List.find?_cons]
  split
  · rename_i same
    rw [if_pos (eq_of_beq same)]
  · rename_i differs
    rw [if_neg (ne_of_beq_false differs)]

-- A selector has the place of its first rule and the conversion of its last one.
structure LastWins (registry : Registry) (ctx : Context) (rules : List Css.Rule)
    (entries : Entries String Conversion) : Prop where
  selectors : Entries.keys entries = (rules.map (·.selector)).eraseDups
  conversions : ∀ selector, (Entries.find? selector entries).map Except.ok =
    (lastRule? selector rules).map (Conversion.ofRule registry ctx)

theorem place_lastWins (registry : Registry) (ctx : Context) (rules : List Css.Rule) (rule : Css.Rule)
    (entries after : Entries String Conversion) (holds : LastWins registry ctx rules entries)
    (returns : place registry ctx entries rule = .ok after) : LastWins registry ctx (rules ++ [rule]) after := by
  obtain ⟨conversion, converted, rfl⟩ := (place_eq_ok_iff registry ctx entries after rule).mp returns
  constructor
  · rw [List.map_append]
    exact Entries.keys_put_firsts _ rule.selector conversion entries holds.selectors
  · intro selector
    rw [lastRule?_concat]
    by_cases same : rule.selector = selector
    · rw [if_pos same, ← same, Entries.find?_put_self, Option.map_some, Option.map_some, converted]
    · rw [if_neg same, Entries.find?_put_of_ne _ _ _ _ (Ne.symm same)]
      exact holds.conversions selector

theorem ofRules_lastWins (registry : Registry) (ctx : Context) (rules : List Css.Rule) (sheet : Sheet)
    (returns : ofRules registry ctx rules = .ok sheet) : LastWins registry ctx rules sheet.bySelector := by
  have nothing : LastWins registry ctx [] [] := ⟨rfl, fun _ => rfl⟩
  exact foldlM_keeps (place registry ctx) (LastWins registry ctx)
    (fun rules rule entries after => place_lastWins registry ctx rules rule entries after) [] rules []
    sheet.bySelector nothing (ofRules_run registry ctx rules sheet returns)

theorem LastWins.distinct {registry : Registry} {ctx : Context} {rules : List Css.Rule}
    {entries : Entries String Conversion} (holds : LastWins registry ctx rules entries) :
    (Entries.keys entries).Nodup := by
  rw [holds.selectors]
  exact nodup_eraseDups _

structure Collects (registry : Registry) (ctx : Context) (rules : List Css.Rule)
    (entries : Entries String Conversion) : Prop where
  converted : ∀ row ∈ entries, ∃ rule ∈ rules, rule.selector = row.1 ∧
    Conversion.ofRule registry ctx rule = .ok row.2
  complete : ∀ rule ∈ rules, rule.selector ∈ Entries.keys entries

theorem LastWins.collects {registry : Registry} {ctx : Context} {rules : List Css.Rule}
    {entries : Entries String Conversion} (holds : LastWins registry ctx rules entries) :
    Collects registry ctx rules entries := by
  constructor
  · rintro ⟨selector, conversion⟩ member
    have last := holds.conversions selector
    rw [(Entries.mem_iff_find? selector conversion entries holds.distinct).mp member, Option.map_some, eq_comm,
      Option.map_eq_some_iff] at last
    obtain ⟨rule, found, converted⟩ := last
    obtain ⟨listed, same⟩ := lastRule?_found selector rules rule found
    exact ⟨rule, listed, same, converted⟩
  · intro rule member
    rw [holds.selectors, List.mem_eraseDups]
    exact List.mem_map_of_mem member

theorem ofRules_collects (registry : Registry) (ctx : Context) (rules : List Css.Rule) (sheet : Sheet)
    (returns : ofRules registry ctx rules = .ok sheet) :
    Collects registry ctx rules sheet.bySelector :=
  (ofRules_lastWins registry ctx rules sheet returns).collects

-- A sheet needs all of its rules, also those that a later one takes the place of.
theorem ofRules_returns_iff (registry : Registry) (ctx : Context) (rules : List Css.Rule) :
    (∃ sheet, ofRules registry ctx rules = .ok sheet) ↔
      ∀ rule ∈ rules, ∃ conversion, Conversion.ofRule registry ctx rule = .ok conversion := by
  constructor
  · rintro ⟨sheet, returns⟩
    refine foldlM_keeps (place registry ctx)
      (fun done _ => ∀ rule ∈ done, ∃ conversion, Conversion.ofRule registry ctx rule = .ok conversion)
      ?_ [] rules [] sheet.bySelector nofun (ofRules_run registry ctx rules sheet returns)
    intro done rule before after earlier placed
    obtain ⟨conversion, converted, _⟩ := (place_eq_ok_iff registry ctx before after rule).mp placed
    rw [List.forall_mem_append]
    exact ⟨earlier, List.forall_mem_singleton.mpr ⟨conversion, converted⟩⟩
  · intro each
    have steps : ∀ rule ∈ rules, ∀ before, ∃ after, place registry ctx before rule = .ok after := by
      intro rule member before
      obtain ⟨conversion, converted⟩ := each rule member
      exact ⟨_, (place_eq_ok_iff registry ctx before _ rule).mpr ⟨conversion, converted, rfl⟩⟩
    obtain ⟨entries, run⟩ := foldlM_returns (place registry ctx) rules [] steps
    refine ⟨⟨entries⟩, ?_⟩
    rw [ofRules, bind_eq_ok_iff]
    exact ⟨entries, run, rfl⟩

end UtilityCss.Sheet
