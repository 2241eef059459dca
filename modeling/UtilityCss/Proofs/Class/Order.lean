import UtilityCss.Class.Order
import UtilityCss.Proofs.Class.Chain
import UtilityCss.Proofs.Class.Natural

namespace UtilityCss
open Text

theorem isLE_total {α : Type} (order : α → α → Ordering) [Std.OrientedCmp order] (a b : α) :
    ((order a b).isLE || (order b a).isLE) = true := by
  have swapped : order b a = (order a b).swap := Std.OrientedCmp.eq_swap
  rw [swapped]
  cases order a b <;> rfl

theorem mergeSort_of_perm {α : Type} (before : α → α → Bool)
    (trans : ∀ a b c, before a b = true → before b c = true → before a c = true)
    (total : ∀ a b, (before a b || before b a) = true)
    (antisymm : ∀ a b, before a b = true → before b a = true → a = b) (xs ys : List α) (same : xs.Perm ys) :
    xs.mergeSort before = ys.mergeSort before := by
  apply List.Perm.eq_of_pairwise (fun a b _ _ => antisymm a b) (List.pairwise_mergeSort trans total xs)
    (List.pairwise_mergeSort trans total ys)
  exact (List.mergeSort_perm xs before).trans (same.trans (List.mergeSort_perm ys before).symm)

instance : Std.TransOrd NaturalPart :=
  inferInstanceAs (Std.TransCmp (compareLex (compareOn NaturalPart.kind)
    (compareLex (compareOn NaturalPart.numberValue) (compareOn NaturalPart.textValue))))

instance : Std.TransOrd VariantRank :=
  inferInstanceAs (Std.TransCmp (compareLex (compareOn VariantRank.tier) (compareOn VariantRank.place)))

namespace ClassKey

instance : Std.TransOrd ClassKey :=
  inferInstanceAs (Std.TransCmp (compareLex (compareOn depth) <| compareLex (compareOn ranks) <|
    compareLex (compareOn lead) <| compareLex (compareOn group) <| compareLex (compareOn stem) <|
      compareLex (compareOn parts) <| compareOn base))

theorem lead_and_base (a b : ClassKey) (tied : compare a b = .eq) : a.lead = b.lead ∧ a.base = b.base := by
  change compareLex _ _ a b = .eq at tied
  simp only [compareLex_eq_eq, compareOn, Std.LawfulEqOrd.compare_eq_iff_eq] at tied
  exact ⟨tied.2.2.1, tied.2.2.2.2.2.2⟩

def readable (screens : List String) (name : String) : ClassKey where
  depth := (Chain.parse name).variants.length
  ranks := (Chain.parse name).variants.map (VariantRank.of screens)
  lead := Chain.lead (Chain.parse name).variants
  group := (Group.ofClass (Chain.parse name).base).number
  stem := Group.stemOfClass (Chain.parse name).base
  parts := NaturalPart.parts (Chain.parse name).base
  base := (Chain.parse name).base

theorem of_readable (screens : List String) (name : String)
    (reads : NaturalPart.Readable (Chain.parse name).base) :
    ClassKey.of screens name = .ok (readable screens name) := by
  simp only [ClassKey.of, NaturalPart.key_of_readable _ reads]
  rfl

theorem of_unreadable (screens : List String) (name : String)
    (fails : ¬NaturalPart.Readable (Chain.parse name).base) :
    ∃ fault, ClassKey.of screens name = .error fault ∧ fault.OfNumeral := by
  obtain ⟨fault, broken, numeral⟩ := NaturalPart.key_of_unreadable _ fails
  refine ⟨fault, ?_, numeral⟩
  simp only [ClassKey.of, broken]
  rfl

theorem ofNumeral_of_fails (screens : List String) (name : String) (fault : Error)
    (fails : ClassKey.of screens name = .error fault) : fault.OfNumeral := by
  by_cases reads : NaturalPart.Readable (Chain.parse name).base
  · rw [of_readable screens name reads] at fails
    cases fails
  · obtain ⟨found, broken, numeral⟩ := of_unreadable screens name reads
    rw [broken] at fails
    cases fails
    exact numeral

end ClassKey

def precedes (screens : List String) (a b : String) : Bool :=
  (compare (ClassKey.readable screens a) (ClassKey.readable screens b)).isLE

theorem precedes_trans (screens : List String) (a b c : String) (ab : precedes screens a b = true)
    (bc : precedes screens b c = true) : precedes screens a c = true :=
  Std.TransCmp.isLE_trans ab bc

theorem precedes_total (screens : List String) (a b : String) :
    (precedes screens a b || precedes screens b a) = true :=
  isLE_total compare (ClassKey.readable screens a) (ClassKey.readable screens b)

theorem precedes_antisymm (screens : List String) (a b : String) (ab : precedes screens a b = true)
    (ba : precedes screens b a = true) : a = b := by
  obtain ⟨lead, base⟩ := ClassKey.lead_and_base _ _ (Std.OrientedCmp.isLE_antisymm ab ba)
  have same : (Chain.parse a).render = (Chain.parse b).render := by
    simp only [ClassKey.readable] at lead base
    rw [Chain.render, Chain.render, lead, base]
  rwa [Chain.render_parse, Chain.render_parse] at same

def inOrder (screens names : List String) : List String := names.mergeSort (precedes screens)

theorem inOrder_perm (screens names : List String) : (inOrder screens names).Perm names :=
  List.mergeSort_perm names (precedes screens)

theorem inOrder_sorted (screens names : List String) :
    (inOrder screens names).Pairwise fun a b => precedes screens a b = true :=
  List.pairwise_mergeSort (precedes_trans screens) (precedes_total screens) names

theorem inOrder_of_perm (screens xs ys : List String) (same : xs.Perm ys) :
    inOrder screens xs = inOrder screens ys :=
  mergeSort_of_perm (precedes screens) (precedes_trans screens) (precedes_total screens)
    (precedes_antisymm screens) xs ys same

end UtilityCss
