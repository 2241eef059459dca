import UtilityCss.Proofs.Settings.Texts

namespace UtilityCss

namespace Data

-- What is neither null nor a mapping is one token, a list included.
def holdsToken : Data → Bool
  | .scalar .null => false
  | .mapping _ => false
  | _ => true

end Data

namespace Scale

-- The place of a token in the data, which its name in the scale need not tell.
structure Address where
  key : Scalar
  shade : Option Scalar

def Address.text : Address → String
  | ⟨key, none⟩ => key.string
  | ⟨key, some shade⟩ => key.string ++ "-" ++ shade.string

-- How two places come to one text. A hyphen in a key or in a shade is not told from the one between them.
inductive Meets : Address → Address → Prop
  | key {one other : Scalar} (same : one.string = other.string) : Meets ⟨one, none⟩ ⟨other, none⟩
  | shade {one other first second : Scalar} (same : one.string = other.string) (shades : first.string = second.string) :
      Meets ⟨one, some first⟩ ⟨other, some second⟩
  | joined {one other shade : Scalar} (whole : one.string = other.string ++ "-" ++ shade.string) :
      Meets ⟨one, none⟩ ⟨other, some shade⟩
  | shifted {one other first second : Scalar} (between : String) (longer : one.string = other.string ++ "-" ++ between)
      (shades : second.string = between ++ "-" ++ first.string) : Meets ⟨one, some first⟩ ⟨other, some second⟩
  | turned {one other : Address} (meets : Meets one other) : Meets other one

theorem Meets.text {one other : Address} (meets : Meets one other) : one.text = other.text := by
  induction meets with
  | key same => exact same
  | shade same shades => rw [Address.text, Address.text, same, shades]
  | joined whole => exact whole
  | shifted between longer shades =>
    rw [Address.text, Address.text, longer, shades]
    simp only [String.append_assoc]
  | turned _ ih => exact ih.symm

theorem joined_within (one other first second : String) (middle : List Char)
    (longer : other.toList = one.toList ++ middle) (rest : '-' :: first.toList = middle ++ '-' :: second.toList) :
    (one = other ∧ first = second) ∨ ∃ between, other = one ++ "-" ++ between ∧ first = between ++ "-" ++ second := by
  cases middle with
  | nil =>
    rw [List.append_nil] at longer
    exact .inl ⟨(String.ext longer).symm, String.ext (List.tail_eq_of_cons_eq rest)⟩
  | cons c between =>
    rw [List.cons_append] at rest
    obtain ⟨rfl, shades⟩ := List.cons_eq_cons.mp rest
    refine .inr ⟨String.ofList between, String.ext ?_, String.ext ?_⟩
    · simpa using longer
    · simpa using shades

theorem joined_cases (one other first second : String) (same : one ++ "-" ++ first = other ++ "-" ++ second) :
    (one = other ∧ first = second) ∨
      (∃ between, one = other ++ "-" ++ between ∧ second = between ++ "-" ++ first) ∨
      ∃ between, other = one ++ "-" ++ between ∧ first = between ++ "-" ++ second := by
  have letters : one.toList ++ '-' :: first.toList = other.toList ++ '-' :: second.toList := by
    simpa using congrArg String.toList same
  rcases List.append_eq_append_iff.mp letters with ⟨middle, longer, rest⟩ | ⟨middle, longer, rest⟩
  · rcases joined_within one other first second middle longer rest with alike | extended
    · exact .inl alike
    · exact .inr (.inr extended)
  · rcases joined_within other one second first middle longer rest with ⟨keys, shades⟩ | extended
    · exact .inl ⟨keys.symm, shades.symm⟩
    · exact .inr (.inl extended)

theorem meets_iff (one other : Address) : Meets one other ↔ one.text = other.text := by
  refine ⟨Meets.text, fun same => ?_⟩
  obtain ⟨key, shade⟩ := one
  obtain ⟨otherKey, otherShade⟩ := other
  cases shade with
  | none =>
    cases otherShade with
    | none => exact .key same
    | some second => exact .joined same
  | some first =>
    cases otherShade with
    | none => exact .turned (.joined same.symm)
    | some second =>
      rcases joined_cases _ _ _ _ same with ⟨keys, shades⟩ | ⟨between, longer, shades⟩ | ⟨between, longer, shades⟩
      · exact .shade keys shades
      · exact .shifted between longer shades
      · exact .turned (.shifted between longer shades)

def rowAddresses : Bool → Scalar × Data → List Address
  | true, (key, .mapping shades) => (shades.filter (·.2.isText)).map fun shade => ⟨key, some shade.1⟩
  | _, (key, value) => if (front value).holdsToken then [⟨key, none⟩] else []

def addresses (nested : Bool) (entries : List (Scalar × Data)) : List Address :=
  entries.flatMap (rowAddresses nested)

theorem rowAddresses_plain (nested : Bool) (key : Scalar) (value : Data)
    (plain : nested = true → ∀ shades, value ≠ .mapping shades) :
    rowAddresses nested (key, value) = if (front value).holdsToken then [⟨key, none⟩] else [] := by
  unfold rowAddresses
  split
  · rename_i shades here
    cases here
    exact absurd rfl (plain rfl shades)
  · rename_i here
    cases here
    rfl

theorem leaf_names (name : String) (value : Data) :
    (leaf name value).map (·.1) = if value.holdsToken then [name] else [] := by
  cases value with
  | scalar s => cases s <;> rfl
  | list items => rfl
  | mapping rows => rfl

theorem shadeEntries_names (key : Scalar) (shades : List (Scalar × Data)) :
    (shades.flatMap (shadeEntry key.string)).map (·.1) =
      ((shades.filter (·.2.isText)).map fun shade => Address.mk key (some shade.1)).map Address.text := by
  induction shades with
  | nil => rfl
  | cons shade rest ih =>
    obtain ⟨name, value⟩ := shade
    rw [List.flatMap_cons, List.map_append, ih]
    cases value with
    | scalar s => cases s <;> rfl
    | list items => rfl
    | mapping rows => rfl

theorem entryTokens_names (nested : Bool) (row : Scalar × Data) :
    (entryTokens nested row).map (·.1) = (rowAddresses nested row).map Address.text := by
  obtain ⟨key, value⟩ := row
  by_cases shaded : nested = true ∧ ∃ shades, value = .mapping shades
  · obtain ⟨rfl, shades, rfl⟩ := shaded
    exact shadeEntries_names key shades
  · have plain : nested = true → ∀ shades, value ≠ .mapping shades :=
      fun colours shades here => shaded ⟨colours, shades, here⟩
    rw [entryTokens_plain nested key value plain, plainEntry_eq, leaf_names,
      rowAddresses_plain nested key value plain]
    split <;> rfl

theorem names_ofEntries (nested : Bool) (entries : List (Scalar × Data)) :
    (ofEntries nested entries).names = (addresses nested entries).map Address.text := by
  unfold names ofEntries addresses
  rw [List.map_flatMap, List.map_flatMap]
  exact List.flatMap_congr fun row _ => entryTokens_names nested row

-- Where a token stands its key and shade are put as texts, and its value if it is no text already.
structure WritableAt (value : Data) (place : Address) : Prop where
  key : place.key.isWritable = true
  shade : ∀ shade, place.shade = some shade → shade.isWritable = true
  value : place.shade = none → (front value).isWritable = true

theorem leafIsWritable_iff (key : Scalar) (value : Data) : leafIsWritable key (front value) = true ↔
    ∀ place ∈ (if (front value).holdsToken then [Address.mk key none] else []), WritableAt value place := by
  have alone : (key.isWritable && (front value).isWritable) = true ↔ WritableAt value ⟨key, none⟩ := by
    rw [Bool.and_eq_true]
    exact ⟨fun both => ⟨both.1, nofun, fun _ => both.2⟩, fun writable => ⟨writable.key, writable.value rfl⟩⟩
  cases shape : front value with
  | scalar s =>
    rw [shape] at alone
    cases s <;> simp [leafIsWritable, Data.holdsToken, alone]
  | list items =>
    rw [shape] at alone
    simp [leafIsWritable, Data.holdsToken, alone]
  | mapping rows => simp [leafIsWritable, Data.holdsToken]

theorem shadeIsWritable_iff (key : Scalar) (shades : List (Scalar × Data)) :
    shades.all (shadeIsWritable key) = true ↔ ∀ place ∈ rowAddresses true (key, .mapping shades),
      WritableAt (.mapping shades) place := by
  simp only [rowAddresses, List.forall_mem_map, List.mem_filter, List.all_eq_true]
  constructor
  · rintro each shade ⟨listed, text⟩
    have writable := each shade listed
    rw [shadeIsWritable, text, Bool.not_true, Bool.false_or, Bool.and_eq_true] at writable
    refine ⟨writable.1, ?_, nofun⟩
    rintro _ ⟨⟩
    exact writable.2
  · intro each shade listed
    cases text : shade.2.isText with
    | false => simp [shadeIsWritable, text]
    | true =>
      have writable := each shade ⟨listed, text⟩
      simp [shadeIsWritable, writable.key, writable.shade shade.1 rfl]

theorem entryIsWritable_iff (nested : Bool) (row : Scalar × Data) : entryIsWritable nested row = true ↔
    ∀ place ∈ rowAddresses nested row, WritableAt row.2 place := by
  obtain ⟨key, value⟩ := row
  by_cases shaded : nested = true ∧ ∃ shades, value = .mapping shades
  · obtain ⟨rfl, shades, rfl⟩ := shaded
    exact shadeIsWritable_iff key shades
  · have plain : nested = true → ∀ shades, value ≠ .mapping shades :=
      fun colours shades here => shaded ⟨colours, shades, here⟩
    have single : entryIsWritable nested (key, value) = leafIsWritable key (front value) := by
      cases value with
      | scalar s => rfl
      | list items => cases items <;> rfl
      | mapping shades =>
        cases nested with
        | false => rfl
        | true => exact absurd rfl (plain rfl shades)
    rw [rowAddresses_plain nested key value plain, single]
    exact leafIsWritable_iff key value

-- A mapping makes a scale unless an integer in it is too long to be a text. Its names are apart exactly if no two
-- places of tokens meet, and then looking a name up gives the value that is listed with it.
theorem names_of_data (nested : Bool) (entries : List (Scalar × Data)) :
    ((∃ scale, ofData nested (.mapping entries) = .ok scale) ↔
      ∀ row ∈ entries, ∀ place ∈ rowAddresses nested row, WritableAt row.2 place) ∧
    (∀ fault, ofData nested (.mapping entries) = .error fault → fault = .unwritableInteger) ∧
    ∀ scale, ofData nested (.mapping entries) = .ok scale →
      scale.names = (addresses nested entries).map Address.text ∧
      (scale.names.Nodup ↔ (addresses nested entries).Pairwise fun one other => ¬ Meets one other) ∧
      (scale.names.Nodup → ∀ name value, (name, value) ∈ scale.entries ↔ scale.find? name = some value) := by
  simp only [← entryIsWritable_iff, ← List.all_eq_true, ofData]
  by_cases writable : entries.all (entryIsWritable nested) = true
  · simp only [if_pos writable]
    refine ⟨iff_of_true ⟨_, rfl⟩ writable, nofun, ?_⟩
    rintro _ ⟨⟩
    refine ⟨names_ofEntries nested entries, ?_, ?_⟩
    · rw [names_ofEntries, nodup_map_iff]
      simp only [meets_iff, ne_eq]
    · exact fun apart name value => Entries.mem_iff_find? name value _ apart
  · simp only [if_neg writable]
    refine ⟨iff_of_false (fun ⟨_, made⟩ => nomatch made) writable, ?_, nofun⟩
    rintro _ ⟨⟩
    rfl

theorem names_of_data_repeat :
    let twice (nested : Bool) (entries : List (Scalar × Data)) (name first second : String) : Prop :=
      ∃ scale, ofData nested (.ofPairs entries) = .ok scale ∧ ¬ scale.names.Nodup ∧
        (name, second) ∈ scale.entries ∧ scale.find? name = some first ∧ first ≠ second
    twice false [(.int 4, .text "1rem"), (.text "4", .text "2rem")] "4" "1rem" "2rem" ∧
      twice true [(.text "blue", .ofPairs [(.text "500", .text "#00f")]), (.text "blue-500", .text "#0000ff")]
        "blue-500" "#00f" "#0000ff" := by
  have made (nested : Bool) (entries : List (Scalar × Data)) (writable : entries.all (entryIsWritable nested) = true) :
      ofData nested (.mapping entries) = .ok (ofEntries nested entries) := if_pos writable
  refine ⟨⟨_, made _ _ ?_, ?_⟩, ⟨_, made _ _ ?_, ?_⟩⟩
  all_goals decide +kernel

end Scale
end UtilityCss
