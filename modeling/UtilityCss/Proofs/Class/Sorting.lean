import UtilityCss.Proofs.Class.Order

namespace UtilityCss
open Text

def Legible (name : String) : Prop := NaturalPart.Readable (Chain.parse (trim name)).base

instance (name : String) : Decidable (Legible name) := inferInstanceAs (Decidable (NaturalPart.Readable _))

theorem legible_canonical (name : String) :
    Legible name ↔ NaturalPart.Readable (Chain.parse (Chain.canonical name)).base := by
  rw [Chain.base_canonical]
  rfl

theorem legible_iff_distinct (classes : List String) : (∀ name ∈ classes, Legible name) ↔
    ∀ name ∈ distinctClasses classes, NaturalPart.Readable (Chain.parse name).base := by
  have blank : NaturalPart.Readable (Chain.parse "").base := by decide +kernel
  constructor
  · intro legible name member
    obtain ⟨_, written, known, rfl⟩ := (mem_distinctClasses classes name).mp member
    exact (legible_canonical written).mp (legible written known)
  · intro readable written known
    rw [legible_canonical]
    by_cases empty : Chain.canonical written = ""
    · rw [empty]
      exact blank
    · exact readable _ ((mem_distinctClasses classes _).mpr ⟨empty, written, known, rfl⟩)

def ClassKey.beside (screens : List String) (name : String) : Except Error (ClassKey × String) := do
  let key ← ClassKey.of screens name
  return (key, name)

theorem ClassKey.beside_of_readable (screens : List String) (name : String)
    (reads : NaturalPart.Readable (Chain.parse name).base) :
    beside screens name = .ok (readable screens name, name) := by
  rw [beside, of_readable screens name reads]
  rfl

theorem ClassKey.beside_fails (screens : List String) (name : String) (fault : Error) :
    beside screens name = .error fault ↔ ClassKey.of screens name = .error fault := by
  rw [beside]
  cases ClassKey.of screens name with
  | error found => exact ⟨fun same => by cases same; rfl, fun same => by cases same; rfl⟩
  | ok key => exact ⟨nofun, nofun⟩

def ClassKey.arrange (keyed : List (ClassKey × String)) : List String :=
  (keyed.mergeSort fun a b => (compare a.1 b.1).isLE).map Prod.snd

theorem sortClasses_eq (screens classes : List String) : sortClasses screens classes =
    ((distinctClasses classes).mapM (ClassKey.beside screens)).map ClassKey.arrange := by
  change ((distinctClasses classes).mapM (ClassKey.beside screens)).bind _ = _
  cases (distinctClasses classes).mapM (ClassKey.beside screens) with
  | error fault => rfl
  | ok keyed => rfl

theorem ClassKey.arrange_readable (screens names : List String) :
    arrange (names.map fun name => (readable screens name, name)) = inOrder screens names := by
  rw [arrange, List.map_mergeSort (s := precedes screens) (f := Prod.snd), List.map_map]
  · simp only [Function.comp_def, List.map_id', inOrder]
  · intro a first b second
    obtain ⟨name, _, rfl⟩ := List.mem_map.mp first
    obtain ⟨other, _, rfl⟩ := List.mem_map.mp second
    rfl

theorem sortClasses_of_readable (screens classes : List String)
    (readable : ∀ name ∈ distinctClasses classes, NaturalPart.Readable (Chain.parse name).base) :
    sortClasses screens classes = .ok (inOrder screens (distinctClasses classes)) := by
  have keys := mapM_of_each (ClassKey.beside screens) (fun name => (ClassKey.readable screens name, name))
    (distinctClasses classes) fun name member =>
      ClassKey.beside_of_readable screens name (readable name member)
  rw [sortClasses_eq, keys, Except.map, ClassKey.arrange_readable]

theorem sortClasses_of_unreadable (screens classes : List String) (name : String)
    (member : name ∈ distinctClasses classes)
    (unreadable : ¬NaturalPart.Readable (Chain.parse name).base) :
    ∃ fault, sortClasses screens classes = .error fault ∧ fault.OfNumeral := by
  obtain ⟨fault, broken, _⟩ := ClassKey.of_unreadable screens name unreadable
  obtain ⟨other, _, found, fails, whole⟩ := mapM_fails (ClassKey.beside screens) _ name fault member
    ((ClassKey.beside_fails screens name fault).mpr broken)
  refine ⟨found, ?_, ?_⟩
  · rw [sortClasses_eq, whole]
    rfl
  · exact ClassKey.ofNumeral_of_fails screens other found ((ClassKey.beside_fails screens other found).mp fails)

theorem sortClasses_eq_ok_iff (screens classes sorted : List String) :
    sortClasses screens classes = .ok sorted ↔ (∀ name ∈ classes, Legible name) ∧
      (distinctClasses classes).Perm sorted ∧ sorted.Pairwise fun a b => precedes screens a b = true := by
  rw [legible_iff_distinct]
  constructor
  · intro returns
    have readable : ∀ name ∈ distinctClasses classes, NaturalPart.Readable (Chain.parse name).base := by
      intro name member
      by_contra unreadable
      obtain ⟨fault, fails, _⟩ := sortClasses_of_unreadable screens classes name member unreadable
      rw [fails] at returns
      cases returns
    rw [sortClasses_of_readable screens classes readable] at returns
    cases returns
    exact ⟨readable, (inOrder_perm screens _).symm, inOrder_sorted screens _⟩
  · rintro ⟨readable, kept, ordered⟩
    rw [sortClasses_of_readable screens classes readable]
    -- Two lists of the same classes in the same total order are one list.
    have same : inOrder screens (distinctClasses classes) = sorted := by
      apply List.Perm.eq_of_pairwise (fun a b _ _ => precedes_antisymm screens a b)
        (inOrder_sorted screens _) ordered
      exact (inOrder_perm screens _).trans kept
    rw [same]

theorem sortClasses_fails (screens classes : List String) (fault : Error)
    (fails : sortClasses screens classes = .error fault) : fault.OfNumeral := by
  by_cases readable : ∀ name ∈ distinctClasses classes, NaturalPart.Readable (Chain.parse name).base
  · rw [sortClasses_of_readable screens classes readable] at fails
    cases fails
  · simp only [not_forall] at readable
    obtain ⟨name, member, unreadable⟩ := readable
    obtain ⟨found, broken, numeral⟩ := sortClasses_of_unreadable screens classes name member unreadable
    rw [broken] at fails
    cases fails
    exact numeral

theorem distinctClasses_perm (xs ys : List String) (same : ∀ name, name ≠ "" →
      ((∃ x ∈ xs, Chain.canonical x = name) ↔ ∃ y ∈ ys, Chain.canonical y = name)) :
    (distinctClasses xs).Perm (distinctClasses ys) := by
  rw [List.perm_ext_iff_of_nodup (distinctClasses_nodup xs) (distinctClasses_nodup ys)]
  intro name
  rw [mem_distinctClasses, mem_distinctClasses]
  exact and_congr_right fun filled => same name filled

theorem mem_of_sorted (screens classes sorted : List String)
    (returns : sortClasses screens classes = .ok sorted) (name : String) :
    name ∈ sorted ↔ name ≠ "" ∧ ∃ written ∈ classes, Chain.canonical written = name := by
  obtain ⟨_, kept, _⟩ := (sortClasses_eq_ok_iff screens classes sorted).mp returns
  rw [← kept.mem_iff, mem_distinctClasses]

theorem sortClasses_of_distinct (screens xs ys sorted : List String)
    (same : (distinctClasses xs).Perm (distinctClasses ys))
    (returns : sortClasses screens xs = .ok sorted) : sortClasses screens ys = .ok sorted := by
  rw [sortClasses_eq_ok_iff, legible_iff_distinct] at returns ⊢
  obtain ⟨readable, kept, ordered⟩ := returns
  exact ⟨fun name member => readable name (same.mem_iff.mpr member), same.symm.trans kept, ordered⟩

theorem sortClasses_returns_iff (screens classes : List String) :
    (∃ sorted, sortClasses screens classes = .ok sorted) ↔ ∀ name ∈ classes, Legible name := by
  constructor
  · rintro ⟨sorted, returns⟩
    exact ((sortClasses_eq_ok_iff screens classes sorted).mp returns).1
  · intro legible
    rw [legible_iff_distinct] at legible
    exact ⟨_, sortClasses_of_readable screens classes legible⟩

theorem nodup_of_sorted (screens classes sorted : List String)
    (returns : sortClasses screens classes = .ok sorted) : sorted.Nodup := by
  obtain ⟨_, kept, _⟩ := (sortClasses_eq_ok_iff screens classes sorted).mp returns
  exact kept.nodup_iff.mp (distinctClasses_nodup classes)

theorem distinctClasses_of_sorted (screens classes sorted : List String)
    (returns : sortClasses screens classes = .ok sorted) : (distinctClasses sorted).Perm sorted := by
  rw [List.perm_ext_iff_of_nodup (distinctClasses_nodup sorted) (nodup_of_sorted screens classes sorted returns)]
  intro name
  rw [mem_distinctClasses]
  have kept := mem_of_sorted screens classes sorted returns
  constructor
  · rintro ⟨_, written, member, rfl⟩
    obtain ⟨_, source, _, rfl⟩ := (kept written).mp member
    rw [Chain.canonical_canonical]
    exact member
  · intro member
    obtain ⟨filled, source, known, form⟩ := (kept name).mp member
    refine ⟨filled, name, member, ?_⟩
    rw [← form, Chain.canonical_canonical]

theorem canonical_of_sorted (screens classes sorted : List String)
    (returns : sortClasses screens classes = .ok sorted) (name : String) (filled : name ≠ "") :
    (∃ written ∈ sorted, Chain.canonical written = name) ↔
      ∃ written ∈ classes, Chain.canonical written = name := by
  have kept := mem_of_sorted screens classes sorted returns
  constructor
  · rintro ⟨written, member, rfl⟩
    obtain ⟨_, source, known, rfl⟩ := (kept written).mp member
    exact ⟨source, known, (Chain.canonical_canonical source).symm⟩
  · rintro ⟨written, member, rfl⟩
    exact ⟨_, (kept _).mpr ⟨filled, written, member, rfl⟩, Chain.canonical_canonical written⟩

theorem sortClasses_append (screens xs ys left right whole : List String)
    (first : sortClasses screens xs = .ok left) (second : sortClasses screens ys = .ok right)
    (returns : sortClasses screens (xs ++ ys) = .ok whole) :
    sortClasses screens (left ++ right) = .ok whole := by
  refine sortClasses_of_distinct screens (xs ++ ys) _ whole ?_ returns
  apply distinctClasses_perm
  intro name filled
  simp only [List.mem_append, or_and_right, exists_or]
  rw [canonical_of_sorted screens xs left first name filled, canonical_of_sorted screens ys right second name filled]

theorem legible_of_sorted (screens classes sorted : List String)
    (returns : sortClasses screens classes = .ok sorted) : ∀ name ∈ sorted, Legible name := by
  intro name member
  obtain ⟨legible, _, _⟩ := (sortClasses_eq_ok_iff screens classes sorted).mp returns
  obtain ⟨_, written, known, rfl⟩ := (mem_of_sorted screens classes sorted returns name).mp member
  rw [legible_canonical, Chain.canonical_canonical, ← legible_canonical]
  exact legible written known

theorem sortClasses_of_same_classes (screens xs ys : List String) (same : ∀ name, name ≠ "" →
      ((∃ x ∈ xs, Chain.canonical x = name) ↔ ∃ y ∈ ys, Chain.canonical y = name)) :
    (∃ fault other, sortClasses screens xs = .error fault ∧ sortClasses screens ys = .error other ∧
      fault.OfNumeral ∧ other.OfNumeral) ∨
    ∃ sorted, sortClasses screens xs = .ok sorted ∧ sortClasses screens ys = .ok sorted ∧ sorted.Nodup ∧
      ∀ name, name ∈ sorted ↔ name ≠ "" ∧ ∃ x ∈ xs, Chain.canonical x = name := by
  have perm := distinctClasses_perm xs ys same
  by_cases readable : ∀ name ∈ distinctClasses xs, NaturalPart.Readable (Chain.parse name).base
  · right
    have first := sortClasses_of_readable screens xs readable
    have second := sortClasses_of_readable screens ys fun name member =>
      readable name (perm.mem_iff.mpr member)
    rw [← inOrder_of_perm screens _ _ perm] at second
    exact ⟨_, first, second, nodup_of_sorted screens xs _ first, mem_of_sorted screens xs _ first⟩
  · left
    simp only [not_forall] at readable
    obtain ⟨name, member, unreadable⟩ := readable
    obtain ⟨fault, first, numeral⟩ := sortClasses_of_unreadable screens xs name member unreadable
    obtain ⟨other, second, too⟩ :=
      sortClasses_of_unreadable screens ys name (perm.mem_iff.mp member) unreadable
    exact ⟨fault, other, first, second, numeral, too⟩

theorem sortClasses_of_permuted_paddings :
    (∀ name, name ≠ "" → ((∃ x ∈ ["p-1", " p-01", "hover:hover:p-1"], Chain.canonical x = name) ↔
      ∃ y ∈ ["hover:p-1", "p-01", "p-1", "p-01"], Chain.canonical y = name)) ∧
    ∃ sorted, sortClasses ["sm"] ["p-1", " p-01", "hover:hover:p-1"] = .ok sorted ∧
      sortClasses ["sm"] ["hover:p-1", "p-01", "p-1", "p-01"] = .ok sorted ∧ sorted.Nodup ∧
      ∀ name, name ∈ sorted ↔
        name ≠ "" ∧ ∃ x ∈ ["p-1", " p-01", "hover:hover:p-1"], Chain.canonical x = name := by
  have plain : Chain.canonical "p-1" = "p-1" := by decide +kernel
  have padded : Chain.canonical " p-01" = "p-01" ∧ Chain.canonical "p-01" = "p-01" := by decide +kernel
  have hovered : Chain.canonical "hover:hover:p-1" = "hover:p-1" ∧
      Chain.canonical "hover:p-1" = "hover:p-1" := by decide +kernel
  have same : ∀ name, name ≠ "" →
      ((∃ x ∈ ["p-1", " p-01", "hover:hover:p-1"], Chain.canonical x = name) ↔
        ∃ y ∈ ["hover:p-1", "p-01", "p-1", "p-01"], Chain.canonical y = name) := by
    intro name _
    simp only [List.mem_cons, List.not_mem_nil, or_false, exists_eq_or_imp, exists_eq_left, plain,
      padded.1, padded.2, hovered.1, hovered.2]
    tauto
  refine ⟨same, ?_⟩
  rcases sortClasses_of_same_classes ["sm"] _ _ same with ⟨fault, _, fails, _⟩ | sorted
  · have readable : ∀ name ∈ distinctClasses ["p-1", " p-01", "hover:hover:p-1"],
        NaturalPart.Readable (Chain.parse name).base := by decide +kernel
    rw [sortClasses_of_readable ["sm"] _ readable] at fails
    cases fails
  · exact sorted

theorem sortClasses_again (screens classes sorted : List String)
    (returns : sortClasses screens classes = .ok sorted) : sortClasses screens sorted = .ok sorted := by
  obtain ⟨_, _, ordered⟩ := (sortClasses_eq_ok_iff screens classes sorted).mp returns
  rw [sortClasses_eq_ok_iff]
  exact ⟨legible_of_sorted screens classes sorted returns,
    distinctClasses_of_sorted screens classes sorted returns, ordered⟩

theorem sortClasses_again_unbalanced :
    let written := ["a: :a:[b:", "::x", "a:]:a:", " p-2 "]
    let sorted := ["p-2", ":x", "a: :[b:", "a:]:"]
    sortClasses ["a"] written = .ok sorted ∧ sortClasses ["a"] sorted = .ok sorted := by
  intro written sorted
  have returns : sortClasses ["a"] written = .ok sorted := by
    rw [sortClasses_eq_ok_iff, legible_iff_distinct]
    decide +kernel
  exact ⟨returns, sortClasses_again ["a"] written sorted returns⟩

end UtilityCss
