import UtilityCss.Proofs.Counting
import UtilityCss.Proofs.Entries
import UtilityCss.Settings.Read

namespace UtilityCss

namespace Scalar

theorem sameKey_text (a b : String) : sameKey (.text a) (.text b) = decide (a = b) := by
  have numeric : (text a != .float .nan) = true := bne_iff_ne.mpr nofun
  simp only [sameKey, units?, numeric, Bool.and_true, beq_eq_decide, text.injEq]

end Scalar

namespace Data

def isNumber : Data → Bool
  | .scalar (.int _) => true
  | .scalar (.float _) => true
  | _ => false

theorem stringifiedEntries_eq (rows : List (Scalar × Data)) :
    stringifiedEntries rows = rows.map fun row => (.text row.1.string, row.2.stringified) := by
  induction rows with
  | nil => rfl
  | cons row rest ih =>
    obtain ⟨key, value⟩ := row
    rw [stringifiedEntries, ih, List.map_cons]

-- The rows of a mapping after its keys have become texts. Keys with one text have become one.
def texts (rows : List (Scalar × Data)) : List (Scalar × Data) :=
  Entries.ofListBy Scalar.sameKey (rows.map fun row => (.text row.1.string, row.2.stringified))

theorem stringified_mapping (rows : List (Scalar × Data)) :
    (Data.mapping rows).stringified = .mapping (texts rows) := by
  rw [stringified, ofPairs, stringifiedEntries_eq, texts]

theorem texts_of_distinct (rows : List (Scalar × Data)) (distinct : (rows.map (·.1.string)).Nodup) :
    texts rows = rows.map fun row => (.text row.1.string, row.2.stringified) := by
  apply Entries.ofListBy_apart
  rw [List.pairwise_map]
  rw [nodup_map_iff] at distinct
  apply distinct.imp
  intro one other differ
  rw [Scalar.sameKey_text, decide_eq_false_iff_not]
  exact differ

theorem mem_texts (rows : List (Scalar × Data)) :
    ∀ row ∈ texts rows, (∃ key, row.1 = .text key) ∧ ∃ value : Data, row.2 = value.stringified := by
  apply Entries.forall_ofListBy (fun key => ∃ text, key = Scalar.text text)
    fun value => ∃ origin : Data, value = origin.stringified
  rw [List.forall_mem_map]
  exact fun row _ => ⟨⟨_, rfl⟩, _, rfl⟩

end Data

namespace Scale

theorem leaf_stringified (name : String) (value : Data) : leaf name value.stringified = leaf name value ↔
    ∀ items, value = .list items → value.stringified.shown = value.shown := by
  cases value with
  | scalar s => cases s <;> simp [Data.stringified, leaf, Data.string, Data.text, Scalar.string]
  | list items => simp [Data.stringified, leaf, Data.string]
  | mapping rows => simp [Data.stringified_mapping, leaf]

theorem leaf_length (name : String) (value : Data) :
    (leaf name value.stringified).length = (leaf name value).length := by
  cases value with
  | scalar s => cases s <;> simp [Data.stringified, leaf, Data.text]
  | list items => simp [Data.stringified, leaf]
  | mapping rows => simp [Data.stringified_mapping, leaf]

def front : Data → Data
  | .list [] => .null
  | .list (first :: _) => first
  | value => value

theorem plainEntry_eq (name : String) (value : Data) : plainEntry name value = leaf name (front value) := by
  cases value with
  | scalar s => rfl
  | list items => cases items <;> rfl
  | mapping rows => rfl

theorem front_stringified (value : Data) : front value.stringified = (front value).stringified := by
  cases value with
  | scalar s => cases s <;> rfl
  | list items => cases items <;> rfl
  | mapping rows => simp only [Data.stringified_mapping, front]

-- A list in front is written out, and what is in it then shows.
def FrontKept (value : Data) : Prop :=
  ∀ items, front value = .list items → (front value).stringified.shown = (front value).shown

theorem plainEntry_stringified (name : String) (value : Data) :
    plainEntry name value = plainEntry name value.stringified ↔ FrontKept value := by
  rw [plainEntry_eq, plainEntry_eq, front_stringified, eq_comm]
  exact leaf_stringified name (front value)

theorem plainEntry_length (name : String) (value : Data) :
    (plainEntry name value.stringified).length = (plainEntry name value).length := by
  rw [plainEntry_eq, plainEntry_eq, front_stringified, leaf_length]

theorem shadeEntry_stringified (name : String) (shade : Scalar × Data) :
    shadeEntry name shade = shadeEntry name (.text shade.1.string, shade.2.stringified) ↔
      shade.2.isNumber = false := by
  obtain ⟨key, value⟩ := shade
  cases value with
  | scalar s => cases s <;> simp [Data.stringified, shadeEntry, Data.isNumber, Data.text, Scalar.string]
  | list items => simp [Data.stringified, shadeEntry, Data.isNumber]
  | mapping rows => simp [Data.stringified_mapping, shadeEntry, Data.isNumber]

theorem shadeEntry_length (name : String) (shade : Scalar × Data) :
    (shadeEntry name shade).length ≤
      (shadeEntry name (.text shade.1.string, shade.2.stringified)).length := by
  obtain ⟨key, value⟩ := shade
  cases value with
  | scalar s => cases s <;> simp [Data.stringified, shadeEntry, Data.text, Scalar.string]
  | list items => simp [shadeEntry]
  | mapping rows => simp [shadeEntry]

instance (value : Data) : Decidable (FrontKept value) :=
  match shape : front value with
  | .list items => decidable_of_iff ((front value).stringified.shown = (front value).shown)
      ⟨fun same _ _ => same, fun kept => kept items shape⟩
  | .scalar _ => isTrue fun _ list => nomatch shape.symm.trans list
  | .mapping _ => isTrue fun _ list => nomatch shape.symm.trans list

def OfShades (P : List (Scalar × Data) → Prop) (nested : Bool) (value : Data) : Prop :=
  nested = true → ∀ shades, value = .mapping shades → P shades

instance (P : List (Scalar × Data) → Prop) [DecidablePred P] (nested : Bool) (value : Data) :
    Decidable (OfShades P nested value) :=
  match nested, value with
  | true, .mapping shades => decidable_of_iff (P shades)
      ⟨fun holds _ _ same => Data.mapping.inj same ▸ holds, fun each => each rfl shades rfl⟩
  | true, .scalar _ => isTrue nofun
  | true, .list _ => isTrue nofun
  | false, _ => isTrue nofun

abbrev ShadesKept : Bool → Data → Prop := OfShades fun shades => ∀ shade ∈ shades, shade.2.isNumber = false

abbrev DistinctShades : Bool → Data → Prop := OfShades fun shades => (shades.map (·.1.string)).Nodup

theorem entryTokens_plain (nested : Bool) (key : Scalar) (value : Data)
    (plain : nested = true → ∀ shades, value ≠ .mapping shades) :
    entryTokens nested (key, value) = plainEntry key.string value := by
  cases value with
  | mapping shades =>
    cases nested with
    | false => rfl
    | true => exact absurd rfl (plain rfl shades)
  | _ => rfl

theorem plain_stringified (nested : Bool) (value : Data)
    (plain : nested = true → ∀ shades, value ≠ .mapping shades) :
    nested = true → ∀ shades, value.stringified ≠ .mapping shades := by
  intro colours shades
  cases value with
  | scalar s => cases s <;> nofun
  | list items => nofun
  | mapping rows => exact absurd rfl (plain colours rows)

theorem shades_stringified (name : String) (shades : List (Scalar × Data))
    (distinct : (shades.map (·.1.string)).Nodup) :
    (shades.flatMap (shadeEntry name)).length ≤ ((Data.texts shades).flatMap (shadeEntry name)).length ∧
      (shades.flatMap (shadeEntry name) = (Data.texts shades).flatMap (shadeEntry name) ↔
        ∀ shade ∈ shades, shade.2.isNumber = false) := by
  have shorter : ∀ shade ∈ shades, (shadeEntry name shade).length ≤
      (shadeEntry name (.text shade.1.string, shade.2.stringified)).length :=
    fun shade _ => shadeEntry_length name shade
  rw [Data.texts_of_distinct shades distinct, List.flatMap_map, flatMap_eq_iff _ _ shades shorter]
  exact ⟨length_flatMap_le _ _ shades shorter, forall₂_congr fun shade _ => shadeEntry_stringified name shade⟩

theorem entryTokens_stringified (nested : Bool) (row : Scalar × Data) (distinct : DistinctShades nested row.2) :
    (entryTokens nested row).length ≤ (entryTokens nested (.text row.1.string, row.2.stringified)).length ∧
      (entryTokens nested row = entryTokens nested (.text row.1.string, row.2.stringified) ↔
        FrontKept row.2 ∧ ShadesKept nested row.2) := by
  obtain ⟨key, value⟩ := row
  by_cases shaded : nested = true ∧ ∃ shades, value = .mapping shades
  · obtain ⟨colours, shades, rfl⟩ := shaded
    subst colours
    have front : FrontKept (.mapping shades) := nofun
    obtain ⟨shorter, same⟩ := shades_stringified key.string shades (distinct rfl shades rfl)
    rw [Data.stringified_mapping]
    refine ⟨shorter, same.trans ⟨fun kept => ⟨front, ?_⟩, fun kept => kept.2 rfl shades rfl⟩⟩
    rintro _ _ ⟨⟩
    exact kept
  · have plain : nested = true → ∀ shades, value ≠ .mapping shades :=
      fun colours shades here => shaded ⟨colours, shades, here⟩
    have shades : ShadesKept nested value := fun colours shades here => absurd here (plain colours shades)
    rw [entryTokens_plain nested key value plain,
      entryTokens_plain nested _ value.stringified (plain_stringified nested value plain), Scalar.string]
    refine ⟨(plainEntry_length key.string value).ge, (plainEntry_stringified key.string value).trans ?_⟩
    exact (and_iff_left shades).symm

theorem ofEntries_texts (nested : Bool) (rows : List (Scalar × Data)) (apart : (rows.map (·.1.string)).Nodup)
    (distinct : ∀ row ∈ rows, DistinctShades nested row.2) :
    ofEntries nested rows = ofEntries nested (Data.texts rows) ↔
      ∀ row ∈ rows, FrontKept row.2 ∧ ShadesKept nested row.2 := by
  unfold ofEntries
  rw [Data.texts_of_distinct rows apart, List.flatMap_map, Scale.mk.injEq, flatMap_eq_iff]
  · exact forall₂_congr fun row member => (entryTokens_stringified nested row (distinct row member)).2
  · exact fun row member => (entryTokens_stringified nested row (distinct row member)).1

end Scale
end UtilityCss
