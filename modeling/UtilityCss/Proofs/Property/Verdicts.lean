import UtilityCss.Proofs.Entries
import UtilityCss.Proofs.Property.Families

namespace UtilityCss
open Text Css

def Blind (matcher : Matcher) : Prop := ∀ a b, matcher a = matcher b

-- All that a matcher learns from a context are verdicts.
def Judging (matcher : Matcher) : Prop := ∀ a b, resolve a = resolve b → matcher a = matcher b

theorem Blind.judging {matcher : Matcher} (blind : Blind matcher) : Judging matcher :=
  fun a b _ => blind a b

theorem Asker.judging (asker : Asker) (steady : ∀ a b, asker a = asker b) : Judging asker.matcher := by
  intro a b same
  funext value
  rw [Asker.matcher, steady a b]
  exact Inquiry.judged_of_resolve a b same (asker b value)

namespace Property

theorem keyword_blind (table : List (String × String)) : Blind (keyword table) := fun _ _ => rfl

theorem named_blind (stem : String) (table : List (String × String)) : Blind (named stem table) :=
  fun _ _ => rfl

theorem borderWidth_blind : Blind borderWidth := fun _ _ => rfl

theorem borderStyle_blind : Blind borderStyle := fun _ _ => rfl

theorem backgroundImage_blind : Blind backgroundImage := fun _ _ => rfl

theorem zIndex_blind : Blind zIndex := fun _ _ => rfl

theorem opacity_blind : Blind opacity := fun _ _ => rfl

theorem background_judging : Judging background := by
  apply Asker.judging
  intro a b
  unfold askBackground
  rw [backgroundImage_blind a b]

theorem border_judging : Judging border := by
  apply Asker.judging
  intro a b
  unfold askBorder askBorderPart
  rw [borderStyle_blind a b, borderWidth_blind a b]

end Property

namespace Registry
open Property

theorem standard_judging : ∀ entry ∈ standard, Judging entry.2 :=
  standard_of_families {
    box := fun kind => Asker.judging (fun _ => askBox kind) fun _ _ => rfl
    spacing := fun stem _ _ => Asker.judging (fun _ => askSpacing stem) fun _ _ => rfl
    gap := Asker.judging (fun _ => askGap) fun _ _ => rfl
    color := fun stem _ _ => Asker.judging (fun _ => askColor stem) fun _ _ => rfl
    fontSize := Asker.judging (fun _ => askScale .fontSize "text") fun _ _ => rfl
    lineHeight := Asker.judging (fun _ => askScale .lineHeight "leading") fun _ _ => rfl
    named := fun stem table _ _ => (named_blind stem table).judging
    keyword := fun table _ => (keyword_blind table).judging
    border := border_judging
    borderRadius := Asker.judging (fun _ => askRadius) fun _ _ => rfl
    borderWidth := borderWidth_blind.judging
    borderStyle := borderStyle_blind.judging
    background := background_judging
    backgroundImage := backgroundImage_blind.judging
    zIndex := zIndex_blind.judging
    opacity := opacity_blind.judging }

theorem matchDeclaration_of_alike (registry : Registry) (a b : Context)
    (alike : ∀ entry ∈ registry, entry.2 a = entry.2 b) :
    registry.matchDeclaration a = registry.matchDeclaration b := by
  funext property value
  rcases registry.matchDeclaration_cases property value with missed | ⟨matcher, known, _, found⟩
  · rw [missed, missed]
  · have same : matcher a = matcher b := alike _ known
    rw [found, found, same]

theorem standard_of_screens (ctx : Context) (screens : Entries String Int) :
    ∀ entry ∈ standard, entry.2 { ctx with screens := screens } = entry.2 ctx := by
  intro entry member
  exact standard_judging entry member { ctx with screens := screens } ctx rfl

end Registry
end UtilityCss
