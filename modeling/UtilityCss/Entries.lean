namespace UtilityCss

-- Keyed values in the order in which their keys were first put. Putting under a key that is present
-- replaces the value in its place.
abbrev Entries (κ : Type) (α : Type) := List (κ × α)

namespace Entries

variable {κ α β : Type}

def putBy (same : κ → κ → Bool) (key : κ) (value : α) : Entries κ α → Entries κ α
  | [] => [(key, value)]
  | (k, v) :: rest =>
    if same k key then (k, value) :: rest else (k, v) :: putBy same key value rest

def ofListBy (same : κ → κ → Bool) (pairs : List (κ × α)) : Entries κ α :=
  pairs.foldl (fun entries pair => putBy same pair.1 pair.2 entries) []

def keys (entries : Entries κ α) : List κ := entries.map (·.1)

def mapValues (f : α → β) (entries : Entries κ α) : Entries κ β := entries.map fun row => (row.1, f row.2)

variable [DecidableEq κ]

def put (key : κ) (value : α) (entries : Entries κ α) : Entries κ α :=
  putBy (fun a b => decide (a = b)) key value entries

def ofList (pairs : List (κ × α)) : Entries κ α := ofListBy (fun a b => decide (a = b)) pairs

def find? (key : κ) : Entries κ α → Option α
  | [] => none
  | (k, v) :: rest => if k = key then some v else find? key rest

theorem find?_put_self (key : κ) (value : α) (entries : Entries κ α) :
    find? key (put key value entries) = some value := by
  induction entries with
  | nil => simp [put, putBy, find?]
  | cons pair rest ih =>
    simp only [put, putBy, decide_eq_true_eq] at ih ⊢
    split <;> simp_all [find?]

theorem find?_put_of_ne (key other : κ) (value : α) (entries : Entries κ α) (differs : other ≠ key) :
    find? other (put key value entries) = find? other entries := by
  induction entries with
  | nil => simp [put, putBy, find?, Ne.symm differs]
  | cons pair rest ih =>
    simp only [put, putBy, decide_eq_true_eq] at ih ⊢
    split
    · rename_i same
      simp [find?, same, Ne.symm differs]
    · simp [find?, ih]

end Entries
end UtilityCss
