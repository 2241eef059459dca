import UtilityCss.Proofs.Css.Canonical
import UtilityCss.Proofs.Property.Making

namespace UtilityCss
open Text Css

-- A matcher warns only beside a class, and only of what the resolver reported.
structure Match.Reports (ctx : Context) (found : Match) : Prop where
  silent : found.classes = [] → found.warnings = []
  verdicts : ∀ warning ∈ found.warnings, ∃ scale value, (resolve ctx scale value).warning? = some warning

def Reporting (matcher : Matcher) : Prop := ∀ ctx value, (matcher ctx value).Reports ctx

namespace Match

variable {ctx : Context}

theorem none_reports : Match.none.Reports ctx := ⟨fun _ => rfl, nofun⟩

theorem warned_reports (name : String) (warning : Option String)
    (given : ∀ text, warning = some text → ∃ scale value, (resolve ctx scale value).warning? = some text) :
    (warned name warning).Reports ctx := by
  unfold warned
  split
  · exact none_reports
  · refine ⟨nofun, fun text member => ?_⟩
    cases warning with
    | none => cases member
    | some reported =>
      dsimp only at member
      split at member
      · cases member
      · rw [List.mem_singleton.mp member]
        exact given reported rfl

theorem single_reports (name : String) : (single name).Reports ctx := warned_reports name .none nofun

theorem ofVerdict_reports (tokenClass : String → String) (stem value : String) (scale : ScaleName)
    (asked : String) : (ofVerdict tokenClass stem value (resolve ctx scale asked)).Reports ctx := by
  unfold ofVerdict
  split
  · exact warned_reports _ _ fun text given => ⟨scale, asked, given⟩
  · exact warned_reports _ _ fun text given => ⟨scale, asked, given⟩

theorem append_reports (a b : Match) (one : a.Reports ctx) (two : b.Reports ctx) : (a ++ b).Reports ctx := by
  change Reports ctx ⟨a.classes ++ b.classes, a.warnings ++ b.warnings⟩
  constructor
  · intro empty
    obtain ⟨left, right⟩ := List.append_eq_nil_iff.mp empty
    exact List.append_eq_nil_iff.mpr ⟨one.silent left, two.silent right⟩
  · intro warning member
    rcases List.mem_append.mp member with left | right
    · exact one.verdicts warning left
    · exact two.verdicts warning right

end Match

theorem Made.reports (ctx : Context) (found : Match) (made : Made ctx found) : found.Reports ctx := by
  induction made with
  | nothing => exact Match.none_reports
  | own name _ => exact Match.single_reports name
  | judged tokenClass stem value scale asked _ _ => exact Match.ofVerdict_reports tokenClass stem value scale asked
  | both a b _ _ one two => exact Match.append_reports a b one two

namespace Registry

theorem standard_reporting : ∀ entry ∈ standard, Reporting entry.2 :=
  fun entry member ctx value => (standard_making entry member ctx value).reports ctx _

theorem matchDeclaration_reports (registry : Registry) (reporting : ∀ entry ∈ registry, Reporting entry.2)
    (ctx : Context) (property value : String) :
    let found := registry.matchDeclaration ctx property value
    (found.classes = [] → found.warnings = []) ∧ ∀ warning ∈ found.warnings,
      warning = arbitraryWarning (propertyName property) (trim value) ∨
        ∃ scale asked, (resolve ctx scale asked).warning? = some warning := by
  dsimp only
  rcases registry.matchDeclaration_cases property value with missed | ⟨matcher, known, _, found⟩
  · rw [missed]
    exact ⟨fun _ => rfl, nofun⟩
  · obtain ⟨silent, verdicts⟩ := reporting _ known ctx (trim value)
    rw [found]
    unfold noted
    split
    · rename_i arbitrary
      refine ⟨fun empty => ?_, fun warning member => ?_⟩
      · rw [empty] at arbitrary
        cases arbitrary
      · rcases List.mem_append.mp member with reported | added
        · exact .inr (verdicts warning reported)
        · exact .inl (List.mem_singleton.mp added)
    · exact ⟨silent, fun warning member => .inr (verdicts warning member)⟩

end Registry
end UtilityCss
