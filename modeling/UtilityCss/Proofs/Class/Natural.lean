import UtilityCss.Class.Natural
import UtilityCss.Proofs.Text.Stretch
import UtilityCss.Proofs.Traversal

namespace UtilityCss
open Text

def Error.OfNumeral : Error → Prop
  | unreadableNumeral _ _ => True
  | overlongNumeral _ => True
  | _ => False

namespace NaturalPart

-- A text whose numerals can be read: no run of digits is over the limit, and none is made of digits without a
-- decimal value.
def Readable (s : String) : Prop :=
  (∀ run, Stretch isDigit run s.toList → run.length ≤ numeralLimit) ∧
    ∀ run, Stretch (fun c => !isDigit c) run s.toList → ∃ c ∈ run, isDigitLike c = false

def part (run : List Char) : NaturalPart :=
  if run.all isDigit then .number (numeralValue run) else .text (String.ofList run)

def parts (s : String) : List NaturalPart := (runs s.toList).map part

theorem ofRun_digits (run : List Char) (digits : ∀ c ∈ run, isDigit c = true)
    (short : run.length ≤ numeralLimit) : ofRun run = .ok (part run) := by
  have whole : run.all isDigit = true := List.all_eq_true.mpr digits
  have fits : ¬numeralLimit < run.length := Nat.not_lt.mpr short
  simp only [ofRun, part, whole, if_true, fits, if_false]

theorem ofRun_overlong (run : List Char) (digits : ∀ c ∈ run, isDigit c = true)
    (long : numeralLimit < run.length) : ofRun run = .error (.overlongNumeral run.length) := by
  have whole : run.all isDigit = true := List.all_eq_true.mpr digits
  simp only [ofRun, whole, if_true, long]

theorem no_number (run : List Char) (filled : run ≠ []) (outside : ∀ c ∈ run, isDigit c = false) :
    run.all isDigit = false := by
  obtain ⟨c, rest, rfl⟩ := List.exists_cons_of_ne_nil filled
  rw [List.all_cons, outside c List.mem_cons_self, Bool.false_and]

theorem ofRun_text (run : List Char) (filled : run ≠ []) (outside : ∀ c ∈ run, isDigit c = false)
    (plain : ∃ c ∈ run, isDigitLike c = false) : ofRun run = .ok (part run) := by
  have bare := no_number run filled outside
  have noDigits : run.all isDigitLike = false := by
    obtain ⟨c, member, other⟩ := plain
    rw [List.all_eq_false]
    exact ⟨c, member, by simp [other]⟩
  simp [ofRun, part, bare, noDigits]

theorem ofRun_ornamental (run : List Char) (filled : run ≠ []) (outside : ∀ c ∈ run, isDigit c = false)
    (like : ∀ c ∈ run, isDigitLike c = true) :
    ofRun run = .error (.unreadableNumeral 10 (String.ofList run)) := by
  have bare := no_number run filled outside
  have ornaments : run.all isDigitLike = true := List.all_eq_true.mpr like
  simp [ofRun, bare, ornaments]

theorem key_of_readable (s : String) (readable : Readable s) : key s = .ok (parts s) := by
  obtain ⟨short, plain⟩ := readable
  apply mapM_of_each
  intro run member
  rcases stretch_of_run s.toList run member with stretch | stretch
  · exact ofRun_digits run stretch.inside (short run stretch)
  · exact ofRun_text run stretch.filled stretch.outside (plain run stretch)

theorem key_fails_at (s : String) (run : List Char) (fault : Error) (member : run ∈ runs s.toList)
    (fails : ofRun run = .error fault) : ∃ found, key s = .error found ∧ found.OfNumeral := by
  obtain ⟨other, known, found, broken, whole⟩ := mapM_fails ofRun _ run fault member fails
  refine ⟨found, whole, ?_⟩
  unfold ofRun at broken
  split at broken
  · split at broken
    · cases broken
      trivial
    · cases broken
  · split at broken
    · cases broken
      trivial
    · cases broken

theorem key_of_unreadable (s : String) (unreadable : ¬Readable s) :
    ∃ fault, key s = .error fault ∧ fault.OfNumeral := by
  by_cases short : ∀ run, Stretch isDigit run s.toList → run.length ≤ numeralLimit
  · have ornamental : ∃ run, Stretch (fun c => !isDigit c) run s.toList ∧
        ∀ c ∈ run, isDigitLike c = true := by
      by_contra none
      refine unreadable ⟨short, fun run stretch => ?_⟩
      by_contra all
      refine none ⟨run, stretch, fun c inside => ?_⟩
      by_contra other
      exact all ⟨c, inside, by simpa using other⟩
    obtain ⟨run, stretch, like⟩ := ornamental
    have member : run ∈ runs s.toList := by
      have found := run_of_stretch s.toList run stretch
      rwa [alike_not] at found
    exact key_fails_at s run _ member (ofRun_ornamental run stretch.filled stretch.outside like)
  · simp only [not_forall, Nat.not_le] at short
    obtain ⟨run, stretch, long⟩ := short
    have member : run ∈ runs s.toList := run_of_stretch s.toList run stretch
    exact key_fails_at s run _ member (ofRun_overlong run stretch.inside long)

theorem readable_iff (s : String) : Readable s ↔ (key s).isOk = true := by
  constructor
  · intro readable
    rw [key_of_readable s readable]
    rfl
  · intro returns
    by_contra unreadable
    obtain ⟨fault, broken, _⟩ := key_of_unreadable s unreadable
    rw [broken] at returns
    cases returns

instance (s : String) : Decidable (Readable s) := decidable_of_iff _ (readable_iff s).symm

end NaturalPart
end UtilityCss
