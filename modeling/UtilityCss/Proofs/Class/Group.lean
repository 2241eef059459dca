import UtilityCss.Class.Group
import UtilityCss.Proofs.Class.Chain

namespace UtilityCss
open Text

namespace Group

-- What begins with a stem of the later family is not taken by the earlier one.
def Family.Apart (earlier later : Family) : Prop :=
  ∀ stem ∈ later.stems, (∀ name ∈ earlier.names, beginsWith stem name = false) ∧
    ∀ other ∈ earlier.stems, beginsWith stem other = false ∧ beginsWith other stem = false

instance (earlier later : Family) : Decidable (earlier.Apart later) :=
  inferInstanceAs (Decidable (∀ stem ∈ later.stems, (∀ name ∈ earlier.names, beginsWith stem name = false) ∧
    ∀ other ∈ earlier.stems, beginsWith stem other = false ∧ beginsWith other stem = false))

theorem families_apart : families.Pairwise Family.Apart := by decide +kernel

theorem Family.Apart.holds {earlier later : Family} (apart : earlier.Apart later) (stem suffix : String)
    (listed : stem ∈ later.stems) : earlier.holds (stem ++ suffix) = false := by
  obtain ⟨names, stems⟩ := apart stem listed
  rw [Bool.eq_false_iff]
  intro held
  simp only [Family.holds, beginsWithAny, Bool.or_eq_true, List.contains_iff_mem, List.any_eq_true] at held
  rcases held with named | ⟨other, known, begins⟩
  · have begins := beginsWith_append stem suffix
    rw [names _ named] at begins
    exact Bool.false_ne_true begins
  · obtain ⟨forth, back⟩ := stems other known
    rcases beginsWith_either other stem suffix begins with shorter | longer
    · exact Bool.false_ne_true (back.symm.trans shorter)
    · exact Bool.false_ne_true (forth.symm.trans longer)

theorem Family.holds_of_stem (family : Family) (stem suffix : String) (listed : stem ∈ family.stems) :
    family.holds (stem ++ suffix) = true := by
  have begins : beginsWithAny family.stems (stem ++ suffix) = true :=
    List.any_eq_true.mpr ⟨stem, listed, beginsWith_append stem suffix⟩
  rw [Family.holds, begins, Bool.or_true]

theorem ofBare_of_stem (family : Family) (member : family ∈ families) (stem suffix : String)
    (listed : stem ∈ family.stems) : ofBare (stem ++ suffix) = family.group := by
  have apart := families_apart
  obtain ⟨front, back, table⟩ := List.append_of_mem member
  rw [table, List.pairwise_append] at apart
  have missed : ∀ earlier ∈ front, earlier.holds (stem ++ suffix) = false := fun earlier before =>
    (apart.2.2 earlier before family List.mem_cons_self).holds stem suffix listed
  have found : families.find? (·.holds (stem ++ suffix)) = some family := by
    rw [List.find?_eq_some_iff_append]
    refine ⟨family.holds_of_stem stem suffix listed, front, back, table, fun earlier before => ?_⟩
    rw [missed earlier before]
    rfl
  rw [ofBare, found]

def modifiers (bangs hyphens : Nat) : String :=
  String.ofList (List.replicate bangs '!' ++ List.replicate hyphens '-')

theorem toList_modified (bangs hyphens : Nat) (base : String) : (modifiers bangs hyphens ++ base).toList =
    List.replicate bangs '!' ++ (List.replicate hyphens '-' ++ base.toList) := by
  rw [modifiers, String.toList_append, String.toList_ofList, List.append_assoc]

theorem modified_isBase (bangs hyphens : Nat) (base : String) (ends : Chain.IsBase base) :
    Chain.IsBase (modifiers bangs hyphens ++ base) := by
  have repeated (mark : Char) (plain : mark ∉ Chain.marks) (count : Nat) :
      Inert .all (· == ':') (List.replicate count mark) := by
    apply Chain.inert_of_unmarked
    intro c member
    rwa [List.eq_of_mem_replicate member]
  unfold Chain.IsBase
  rw [toList_modified, unbroken_behind (repeated '!' (by decide) bangs),
    unbroken_behind (repeated '-' (by decide) hyphens)]
  exact ends

theorem bare_of_modified (bangs hyphens : Nat) (base : String) (c : Char) (first : base.toList.head? = some c)
    (plain : c ≠ '!' ∧ c ≠ '-') : bare (modifiers bangs hyphens ++ base) = base := by
  have signed : ∀ d, (List.replicate hyphens '-' ++ base.toList).head? = some d → d ≠ '!' := by
    intro d head
    rw [List.head?_append, first] at head
    cases hyphens <;> cases head
    · exact plain.1
    · decide
  have unsigned : ∀ d, base.toList.head? = some d → d ≠ '-' := by
    intro d head
    rw [first] at head
    cases head
    exact plain.2
  unfold bare
  rw [toList_modified, dropWhile_marks '!' bangs _ signed, dropWhile_marks '-' hyphens _ unsigned, String.ofList_toList]

theorem stems_begin : ∀ family ∈ families, ∀ stem ∈ family.stems,
    stem.toList.head?.any (fun c => c ≠ '!' ∧ c ≠ '-') = true := by decide +kernel

theorem ofClass_modified (family : Family) (member : family ∈ families) (stem suffix : String)
    (listed : stem ∈ family.stems) (ends : Chain.IsBase (stem ++ suffix)) (variants : List String)
    (segments : ∀ variant ∈ variants, Chain.IsVariant variant) (bangs hyphens : Nat) :
    ofClass (Chain.render ⟨variants, modifiers bangs hyphens ++ (stem ++ suffix)⟩) = family.group := by
  have read := Chain.parse_render variants _ segments (modified_isBase bangs hyphens _ ends)
  obtain ⟨c, begins, plain⟩ := (Option.any_eq_true _ _).mp (stems_begin family member stem listed)
  have first : (stem ++ suffix).toList.head? = some c := by
    rw [String.toList_append, List.head?_append, begins]
    rfl
  rw [ofClass, read]
  dsimp only
  rw [bare_of_modified bangs hyphens _ c first (of_decide_eq_true plain),
    ofBare_of_stem family member stem suffix listed]

def IsSpacingStem (stem : String) : Prop :=
  (∃ kind ∈ ["m", "p"], ∃ side ∈ ["", "x", "y", "t", "r", "b", "l", "s", "e"], stem = kind ++ side ++ "-") ∨
    ∃ axis ∈ ["x", "y"], stem = "space-" ++ axis ++ "-"

instance (stem : String) : Decidable (IsSpacingStem stem) := inferInstanceAs (Decidable (_ ∨ _))

theorem isSpacingStem_iff (stem : String) :
    IsSpacingStem stem ↔ ∃ family ∈ families, family.group = .spacing ∧ stem ∈ family.stems := by
  constructor
  · have boxes : ∀ kind ∈ ["m", "p"], ∀ side ∈ ["", "x", "y", "t", "r", "b", "l", "s", "e"],
        ∃ family ∈ families, family.group = .spacing ∧ kind ++ side ++ "-" ∈ family.stems := by decide +kernel
    have gaps : ∀ axis ∈ ["x", "y"],
        ∃ family ∈ families, family.group = .spacing ∧ "space-" ++ axis ++ "-" ∈ family.stems := by decide +kernel
    rintro (⟨kind, known, side, placed, rfl⟩ | ⟨axis, known, rfl⟩)
    · exact boxes kind known side placed
    · exact gaps axis known
  · have listed : ∀ family ∈ families, family.group = .spacing → ∀ stem ∈ family.stems, IsSpacingStem stem := by
      decide +kernel
    rintro ⟨family, member, spacing, kept⟩
    exact listed family member spacing stem kept

theorem ofClass_of_stem :
    (∀ stem, IsSpacingStem stem ↔ ∃ family ∈ families, family.group = .spacing ∧ stem ∈ family.stems) ∧
    ∀ family ∈ families, ∀ stem ∈ family.stems,
      (∀ suffix, Chain.IsBase (stem ++ suffix) → ∀ variants, (∀ variant ∈ variants, Chain.IsVariant variant) →
        ∀ bangs hyphens, ofClass (Chain.render ⟨variants, modifiers bangs hyphens ++ (stem ++ suffix)⟩) =
          family.group) ∧
      ∀ value token, Chain.IsBase (stem ++ ("[" ++ value ++ "]")) → Chain.IsBase (stem ++ token) →
        ∀ base ∈ [stem ++ ("[" ++ value ++ "]"), stem ++ token],
          ofClass base = family.group ∧ ofClass ("-" ++ base) = family.group := by
  refine ⟨isSpacingStem_iff, fun family member stem listed => ⟨?_, ?_⟩⟩
  · intro suffix ends variants segments bangs hyphens
    exact ofClass_modified family member stem suffix listed ends variants segments bangs hyphens
  · intro value token bracketed plain
    have alone (suffix : String) (ends : Chain.IsBase (stem ++ suffix)) :
        ofClass (stem ++ suffix) = family.group ∧ ofClass ("-" ++ (stem ++ suffix)) = family.group := by
      have reads := ofClass_modified family member stem suffix listed ends [] (List.forall_mem_nil _) 0
      have unsigned : modifiers 0 0 ++ (stem ++ suffix) = stem ++ suffix := String.empty_append
      constructor
      · rw [← reads 0, Chain.render_unled, unsigned]
      · rw [← reads 1, Chain.render_unled]
        rfl
    intro base one
    rcases List.mem_pair.mp one with rfl | rfl
    · exact alone _ bracketed
    · exact alone _ plain

theorem ofClass_of_stem_of_gap :
    IsSpacingStem "space-x-" ∧ "space-x-" ∈ families[3].stems ∧ Chain.IsBase "space-x-[--gap:1px]" ∧
      Chain.IsBase "space-x-reverse" ∧ (∀ variant ∈ ["md", "group-[:nth-child(2)]"], Chain.IsVariant variant) ∧
      ofClass "md:group-[:nth-child(2)]:!!-space-x-[--gap:1px]" = .spacing ∧
      ofClass "-space-x-reverse" = .spacing := by
  have listed : "space-x-" ∈ families[3].stems := by decide
  have bracketed : Chain.IsBase "space-x-[--gap:1px]" := by decide
  have plain : Chain.IsBase "space-x-reverse" := by decide
  have segments : ∀ variant ∈ ["md", "group-[:nth-child(2)]"], Chain.IsVariant variant := by decide
  obtain ⟨pattern, stems⟩ := ofClass_of_stem
  obtain ⟨led, alone⟩ := stems families[3] (List.getElem_mem _) "space-x-" listed
  have spacing := (pattern "space-x-").mpr ⟨families[3], List.getElem_mem _, rfl, listed⟩
  have whole := led "[--gap:1px]" bracketed _ segments 2 1
  have negative := (alone "--gap:1px" "reverse" bracketed plain "space-x-reverse" (by decide)).2
  exact ⟨spacing, listed, bracketed, plain, segments, whole, negative⟩

end Group
end UtilityCss
