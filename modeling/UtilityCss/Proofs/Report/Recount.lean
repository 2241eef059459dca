import UtilityCss.Proofs.Report.Digest
import UtilityCss.Proofs.Report.Summary
import UtilityCss.Proofs.Text.Casing

namespace UtilityCss
open Text

namespace WarningCategory

-- The phrases are such that a note of occurrences neither holds one nor completes one.
def Unnoted (phrase : String) : Prop :=
  Phrase phrase ∧ '(' ∉ phrase.toList ∧ phrase.toList.getLast? ≠ some ' ' ∧
    phrase.toList.any (fun c => !c.isDigit && !" occurrences)".toList.contains c) = true

instance (phrase : String) : Decidable (Unnoted phrase) := inferInstanceAs (Decidable (_ ∧ _))

theorem markers_unnoted : ∀ row ∈ markers, ∀ phrase ∈ row.2, Unnoted phrase := by decide +kernel

theorem mem_note (count : Nat) (c : Char) (member : c ∈ (toString count ++ " occurrences)").toList) :
    c.isDigit = true ∨ c ∈ " occurrences)".toList := by
  rw [String.toList_append, Nat.toString_eq_ofList_toDigits, String.toList_ofList, List.mem_append] at member
  exact member.imp_left (Nat.isDigit_of_mem_toDigits (by decide) (by decide))

theorem lowercase_note (count : Nat) :
    lowercase (toString count ++ " occurrences)") = toString count ++ " occurrences)" := by
  rw [lowercase_eq_self_iff]
  intro c member
  rcases mem_note count c member with digit | letter
  · have range : 0x30 ≤ c.toNat ∧ c.toNat ≤ 0x39 := Char.isDigit_iff_toNat.mp digit
    exact lowered_ascii c (by omega) (by omega)
  · have small : " occurrences)".toList.all (fun c => decide (c.toNat < 0x80 ∧ ¬(0x41 ≤ c.toNat ∧ c.toNat ≤ 0x5a))) =
        true := by decide
    obtain ⟨plain, uncased⟩ := of_decide_eq_true (List.all_eq_true.mp small c letter)
    exact lowered_ascii c plain uncased

theorem mentions_counted (phrase warning : String) (count : Nat) (unnoted : Unnoted phrase) :
    mentions phrase (WarningDigest.counted warning count) = mentions phrase warning := by
  obtain ⟨plain, noBracket, ends, strange⟩ := unnoted
  obtain ⟨c, inside, apart⟩ := List.any_eq_true.mp strange
  have silent : mentions phrase (toString count ++ " occurrences)") = false := by
    rw [Bool.eq_false_iff, mentions, lowercase_note, contains]
    intro occurs
    have member := ((occursIn_iff _ _).mp occurs).subset inside
    rcases mem_note count c member with digit | noted
    · simp [digit] at apart
    · simp only [List.contains_iff_mem.mpr noted, Bool.not_true, Bool.and_false, Bool.false_eq_true] at apart
  unfold WarningDigest.counted
  split
  · rw [String.append_assoc, mentions_noted phrase warning _ plain noBracket ends, silent, Bool.or_false]
  · rfl

theorem marked_counted (row : WarningCategory × List String) (listed : row ∈ markers) (warning : String) (count : Nat) :
    Marked row.2 (WarningDigest.counted warning count) ↔ Marked row.2 warning := by
  refine exists_congr fun phrase => and_congr_right fun known => ?_
  rw [mentions_counted phrase warning count (markers_unnoted row listed phrase known)]

theorem takes_counted (warning : String) (count : Nat) (category : WarningCategory) (takes : Takes warning category) :
    Takes (WarningDigest.counted warning count) category := by
  cases takes with
  | marked before category phrases after split here earlier =>
    have listed : ∀ row ∈ before ++ [(category, phrases)], row ∈ markers := by
      intro row member
      rw [split, List.append_cons]
      exact List.mem_append_left after member
    refine .marked before category phrases after split ?_ fun row prior => ?_
    · exact (marked_counted (category, phrases) (listed _ (by simp)) warning count).mpr here
    · exact mt (marked_counted row (listed row (List.mem_append_left _ prior)) warning count).mp (earlier row prior)
  | unmarked nowhere =>
    exact .unmarked fun row listed => mt (marked_counted row listed warning count).mp (nowhere row listed)

theorem of_counted (warning : String) (count : Nat) : of (WarningDigest.counted warning count) = of warning :=
  of_takes _ _ (takes_counted warning count (of warning) (takes_of warning))

end WarningCategory

namespace WarningDigest

theorem countIn_again (category : WarningCategory) (given : List String) :
    countIn category (of given).warnings = countIn category given.eraseDups := by
  unfold countIn of
  dsimp only
  rw [List.countP_map]
  refine List.countP_congr fun warning _ => ?_
  rw [Function.comp_apply, WarningCategory.of_counted]

theorem counts_again (given : List String) : (of (of given).warnings).counts = (of given.eraseDups).counts := by
  have counters (category : WarningCategory) := countIn_again category given
  unfold of at counters ⊢
  simp only [counters]

theorem countIn_eraseDups (category : WarningCategory) (given : List String) :
    countIn category given.eraseDups ≤ countIn category given ∧
      (countIn category given.eraseDups = countIn category given ↔
        ∀ warning ∈ given, category.Takes warning → given.count warning = 1) := by
  obtain ⟨fewer, same⟩ := countP_eraseDups (fun warning => WarningCategory.of warning == category) given
  refine ⟨fewer, same.trans ?_⟩
  simp only [WarningCategory.takes_iff, beq_iff_eq]

theorem counts_eraseDups_iff (given : List String) : (of given.eraseDups).counts = (of given).counts ↔ given.Nodup := by
  constructor
  · intro same
    rw [List.nodup_iff_count_eq_one]
    intro warning member
    have counters := find_counts (.of warning) given.eraseDups
    rw [same, find_counts] at counters
    have equal := Nat.cast_inj.mp (Option.some.inj counters)
    exact (countIn_eraseDups _ given).2.mp equal.symm warning member (WarningCategory.takes_of warning)
  · intro once
    rw [eraseDups_of_nodup given once]

end WarningDigest

namespace Conversion

def digested (classes given : List String) (coverage : Coverage) : Conversion :=
  ⟨classes, (WarningDigest.of given).warnings, { coverage with warnings := some (WarningDigest.of given).counts }⟩

def uncounted (conversion : Conversion) : Conversion :=
  { conversion with coverage := { conversion.coverage with warnings := none } }

end Conversion

namespace Summary
open Conversion

def withCounts (counts : Entries String Int) (summary : Summary) : Summary := { summary with warningCounts := counts }

theorem mergeWarnings_digest (given : List String) :
    Coverage.mergeWarnings [some (WarningDigest.of given).counts] = (WarningDigest.of given).counts := by
  have read (category : WarningCategory) : Coverage.warningEntry category (some (WarningDigest.of given).counts) =
      WarningDigest.countIn category given := by
    rw [Coverage.warningEntry, Option.bind_some, WarningDigest.find_counts]
    rfl
  simp only [Coverage.mergeWarnings, List.map_singleton, read, Coverage.sum_eq, List.sum_singleton]
  rfl

theorem of_uncounted_eq (conversion : Conversion) : of [conversion.uncounted] =
    (of [conversion]).map (withCounts (Coverage.mergeWarnings [some conversion.uncounted.warningCounts])) := by
  unfold of Coverage.merge Coverage.of
  simp only [List.map_singleton, uncounted]
  cases Coverage.mergeCategories [conversion.coverage.categories] with
  | error fault => rfl
  | ok table =>
    simp only [bind, Except.bind]
    cases UtilityCss.percentage (Coverage.sum [conversion.coverage.matched])
      (Coverage.sum [conversion.coverage.total]) <;> rfl

theorem of_digested (classes given : List String) (coverage : Coverage) (summary : Summary)
    (returns : of [digested classes given coverage] = .ok summary) :
    summary.warningCounts = (WarningDigest.of given).counts := by
  rw [of, bind_eq_ok_iff] at returns
  obtain ⟨_, _, made⟩ := returns
  cases made
  exact mergeWarnings_digest given

-- Without its counters a digest counts each warning once. The two counts agree where nothing was given twice.
theorem of_uncounted (classes given : List String) (coverage : Coverage) :
    of [(digested classes given coverage).uncounted] =
        (of [digested classes given coverage]).map (withCounts (WarningDigest.of given.eraseDups).counts) ∧
      ∀ summary, of [digested classes given coverage] = .ok summary →
        summary.warningCounts = (WarningDigest.of given).counts ∧
        ((of [(digested classes given coverage).uncounted]).map (·.warningCounts) = .ok summary.warningCounts ↔
          given.Nodup) ∧
        ∀ category, ∃ again stored : Nat,
          (WarningDigest.of given.eraseDups).counter? category = some (again : Int) ∧
          (WarningDigest.of given).counter? category = some (stored : Int) ∧ again ≤ stored ∧
          (again = stored ↔ ∀ warning ∈ given, category.Takes warning → given.count warning = 1) := by
  have recounted : of [(digested classes given coverage).uncounted] =
      (of [digested classes given coverage]).map (withCounts (WarningDigest.of given.eraseDups).counts) := by
    have counts : (digested classes given coverage).uncounted.warningCounts =
        (WarningDigest.of given.eraseDups).counts := WarningDigest.counts_again given
    rw [of_uncounted_eq, counts, mergeWarnings_digest]
  refine ⟨recounted, fun summary returns => ?_⟩
  have stored := of_digested classes given coverage summary returns
  refine ⟨stored, ?_, fun category => ?_⟩
  · rw [recounted, returns, stored, ← WarningDigest.counts_eraseDups_iff]
    exact ⟨Except.ok.inj, congrArg Except.ok⟩
  · exact ⟨_, _, WarningDigest.find_counts category _, WarningDigest.find_counts category _,
      WarningDigest.countIn_eraseDups category given⟩

theorem of_uncounted_of_repeats :
    let given := ["Could not transform: cursor: x", "dim", "Approximate", "Could not transform: cursor: x",
      "dim (2 occurrences)", "dim"]
    ∃ summary, of [digested ["block"] given ⟨1, 3, 33, 1, none, none⟩] = .ok summary ∧
      summary.warningCounts.map Prod.snd = [0, 2, 1, 0, 0, 3] ∧
      (of [(digested ["block"] given ⟨1, 3, 33, 1, none, none⟩).uncounted]).map (·.warningCounts.map Prod.snd) =
        .ok [0, 1, 1, 0, 0, 2] ∧
      (of [(digested ["block"] given ⟨1, 3, 33, 1, none, none⟩).uncounted]).map (·.warningCounts) ≠
        .ok summary.warningCounts := by
  intro given
  have makes : (of [digested ["block"] given ⟨1, 3, 33, 1, none, none⟩]).map (·.matched) = .ok 1 := by decide +kernel
  obtain ⟨summary, returns, _⟩ := (map_eq_ok_iff _ _ _).mp makes
  obtain ⟨recounted, counted⟩ := of_uncounted ["block"] given ⟨1, 3, 33, 1, none, none⟩
  obtain ⟨stored, agree, _⟩ := counted summary returns
  refine ⟨summary, returns, ?_, ?_, mt agree.mp (by decide)⟩
  · rw [stored]
    decide +kernel
  · have again : (WarningDigest.of given.eraseDups).counts.map Prod.snd = [0, 1, 1, 0, 0, 2] := by decide +kernel
    rw [recounted, returns]
    exact congrArg Except.ok again

theorem of_uncounted_differs :
    let given := List.replicate 2 "Could not transform: display: nope"
    (of [digested [] given .zero]).map (·.warningCounts) = .ok [("arbitrary-value", 0), ("no-handler", 2),
        ("approximate", 0), ("token-miss", 0), ("v3-fallback", 0), ("other", 0)] ∧
      (of [(digested [] given .zero).uncounted]).map (·.warningCounts) = .ok [("arbitrary-value", 0),
        ("no-handler", 1), ("approximate", 0), ("token-miss", 0), ("v3-fallback", 0), ("other", 0)] := by
  decide +kernel

end Summary
end UtilityCss
