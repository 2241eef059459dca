import UtilityCss.Css.Quantity
import UtilityCss.Proofs.Number.Numeral

namespace UtilityCss.Css
open Text

namespace LengthUnit

def suffix : LengthUnit → List Char
  | px => ['p', 'x']
  | rem => ['r', 'e', 'm']
  | em => ['e', 'm']
  | percent => ['%']
  | bare => []

theorem ofText?_eq_some_iff (rest : List Char) (unit : LengthUnit) : ofText? rest = some unit ↔ rest = unit.suffix := by
  constructor
  · intro read
    unfold ofText? at read
    split at read <;> cases read <;> rfl
  · rintro rfl
    cases unit <;> rfl

theorem suffix_apart (unit : LengthUnit) : Decimal.Apart unit.suffix := by
  intro c first
  cases unit <;> cases first <;> decide

def Fits (unit : LengthUnit) (text : String) : Prop :=
  ∃ numeral, Decimal.Numeral numeral ∧ text.toList = numeral ++ unit.suffix

theorem fits_iff (unit : LengthUnit) (text : String) :
    unit.Fits text ↔ ∃ number, Decimal.readLeading? text.toList = some (number, unit.suffix) := by
  constructor
  · rintro ⟨numeral, grammar, whole⟩
    obtain ⟨number, _, leading⟩ := grammar.accepted
    exact ⟨number, by rw [whole, leading _ unit.suffix_apart]⟩
  · rintro ⟨number, leading⟩
    exact Decimal.readLeading?_numeral _ _ number leading

instance (unit : LengthUnit) (text : String) : Decidable (unit.Fits text) :=
  decidable_of_iff ((Decimal.readLeading? text.toList).map Prod.snd = some unit.suffix)
    (by simp [fits_iff, Option.map_eq_some_iff])

end LengthUnit

theorem read?_eq_some_iff (value : String) (number : Decimal) (unit : LengthUnit) :
    Quantity.read? value = some ⟨number, unit⟩ ↔
      Decimal.readLeading? (canonical value).toList = some (number, unit.suffix) := by
  unfold Quantity.read?
  cases Decimal.readLeading? (canonical value).toList with
  | none => exact ⟨nofun, nofun⟩
  | some read => simp [← LengthUnit.ofText?_eq_some_iff, Prod.ext_iff, and_comm, Option.bind_eq_some_iff]

theorem fits_iff_read? (unit : LengthUnit) (value : String) :
    unit.Fits (canonical value) ↔ ∃ q, Quantity.read? value = some q ∧ q.unit = unit := by
  rw [LengthUnit.fits_iff]
  constructor
  · rintro ⟨number, leading⟩
    exact ⟨⟨number, unit⟩, (read?_eq_some_iff value number unit).mpr leading, rfl⟩
  · rintro ⟨⟨number, _⟩, reads, rfl⟩
    exact ⟨number, (read?_eq_some_iff value number _).mp reads⟩

theorem isIn_iff_read? (unit : LengthUnit) (value : String) :
    isIn unit value = true ↔ ∃ q, Quantity.read? value = some q ∧ q.unit = unit := by
  unfold isIn
  cases Quantity.read? value <;> simp

theorem isIn_iff_fits (unit : LengthUnit) (value : String) : isIn unit value = true ↔ unit.Fits (canonical value) := by
  rw [isIn_iff_read?, fits_iff_read?]

theorem isIn_apart (unit other : LengthUnit) (value : String) (left : isIn unit value = true)
    (right : isIn other value = true) : unit = other := by
  obtain ⟨q, reads, rfl⟩ := (isIn_iff_read? unit value).mp left
  obtain ⟨again, same, rfl⟩ := (isIn_iff_read? other value).mp right
  rw [Option.some.inj (reads.symm.trans same)]

-- The number that stands before the last letters of a text. Texts that are no numbers are refused.
def numberBefore? (letters : Nat) (text : String) : Option Binary64 :=
  Binary64.read? isSpace isDigit (String.ofList (text.toList.take (text.toList.length - letters)))

theorem numberBefore?_of_read? (value : String) (q : Quantity) (reads : Quantity.read? value = some q) :
    numberBefore? q.unit.suffix.length (canonical value) = some q.amount := by
  obtain ⟨number, unit⟩ := q
  have leading := (read?_eq_some_iff value number unit).mp reads
  obtain ⟨numeral, grammar, whole⟩ := Decimal.readLeading?_numeral _ _ number leading
  obtain ⟨accepted, read, again⟩ := grammar.accepted
  rw [whole, again _ unit.suffix_apart] at leading
  cases leading
  have cut : (canonical value).toList.take ((canonical value).toList.length - unit.suffix.length) = numeral := by
    rw [whole, List.length_append, Nat.add_sub_cancel, List.take_left]
  rw [numberBefore?, cut, read]
  rfl

-- One pattern after the other, each with the letters that it cuts off. The outer option is for texts that are refused.
def pixelsByPattern? (base : Binary64) (text : String) : Option (Option Binary64) :=
  if LengthUnit.px.Fits text then (numberBefore? 2 text).map some
  else if LengthUnit.rem.Fits text then (numberBefore? 3 text).map fun x => some (x * base)
  else if LengthUnit.em.Fits text then (numberBefore? 2 text).map fun x => some (x * base)
  else if LengthUnit.bare.Fits text then (numberBefore? 0 text).map some
  else some none

def bareByPattern? (text : String) : Option (Option Binary64) :=
  if LengthUnit.bare.Fits text then (numberBefore? 0 text).map some else some none

theorem pixels_accepted (base : Binary64) (value : String) :
    pixelsByPattern? base (canonical value) = some (pixels? base value) := by
  unfold pixelsByPattern? pixels?
  simp only [fits_iff_read?]
  cases reads : Quantity.read? value with
  | none => simp
  | some q =>
    have number := numberBefore?_of_read? value q reads
    obtain ⟨decimal, unit⟩ := q
    cases unit <;> simp_all [LengthUnit.suffix, Quantity.pixels?]

theorem bareNumber_accepted (value : String) : bareByPattern? (canonical value) = some (bareNumber? value) := by
  unfold bareByPattern? bareNumber? amountIn?
  simp only [fits_iff_read?]
  cases reads : Quantity.read? value with
  | none => simp
  | some q =>
    have number := numberBefore?_of_read? value q reads
    obtain ⟨decimal, unit⟩ := q
    cases unit <;> simp_all [LengthUnit.suffix]

theorem pixels_isSome_iff (base : Binary64) (value : String) : (pixels? base value).isSome = true ↔
    isIn .px value = true ∨ isIn .rem value = true ∨ isIn .em value = true ∨ isIn .bare value = true := by
  simp only [isIn_iff_read?, pixels?]
  cases Quantity.read? value with
  | none => simp
  | some q =>
    obtain ⟨number, unit⟩ := q
    cases unit <;> simp [Quantity.pixels?]

theorem bareNumber_isSome_iff (value : String) : (bareNumber? value).isSome = true ↔ isIn .bare value = true := by
  rw [isIn_iff_read?]
  unfold bareNumber? amountIn?
  cases Quantity.read? value <;> simp

theorem bareNumber_eq_pixels (base : Binary64) (value : String) (bare : isIn .bare value = true) :
    bareNumber? value = pixels? base value := by
  obtain ⟨⟨number, _⟩, reads, rfl⟩ := (isIn_iff_read? .bare value).mp bare
  unfold bareNumber? amountIn? pixels?
  simp [reads, Quantity.pixels?]

theorem units_of_value (base : Binary64) (value : String) :
    (∀ unit, isIn unit value = true ↔ unit.Fits (canonical value)) ∧
      (∀ unit other, isIn unit value = true → isIn other value = true → unit = other) ∧
      ((pixels? base value).isSome = true ↔
        isIn .px value = true ∨ isIn .rem value = true ∨ isIn .em value = true ∨ isIn .bare value = true) ∧
      ((bareNumber? value).isSome = true ↔ isIn .bare value = true) ∧
      (isIn .bare value = true → bareNumber? value = pixels? base value) ∧
      pixelsByPattern? base (canonical value) = some (pixels? base value) ∧
      bareByPattern? (canonical value) = some (bareNumber? value) :=
  ⟨fun unit => isIn_iff_fits unit value, fun unit other => isIn_apart unit other value, pixels_isSome_iff base value,
    bareNumber_isSome_iff value, bareNumber_eq_pixels base value, pixels_accepted base value,
    bareNumber_accepted value⟩

-- Digits of any script, and a point that no digit follows.
example : isIn .rem " -\u0661.\u0665REM " = true ∧ isIn .em "-\u0661.\u0665rem" = false ∧
    pixels? 16 "-\u0661.\u0665rem" = some (.ofInt (-24)) ∧ pixels? 16 "1.px" = none := by
  decide +kernel

end UtilityCss.Css
