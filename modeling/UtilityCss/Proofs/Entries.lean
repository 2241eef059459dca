import Mathlib.Data.List.Induction
import UtilityCss.Proofs.Distinct
import UtilityCss.Entries

namespace UtilityCss.Entries

variable {κ α β : Type}

def mapRows (f : κ → α → β) (entries : Entries κ α) : Entries κ β := entries.map fun row => (row.1, f row.1 row.2)

theorem putBy_fresh (same : κ → κ → Bool) (key : κ) (value : α) (entries : Entries κ α)
    (fresh : ∀ row ∈ entries, same row.1 key = false) :
    putBy same key value entries = entries ++ [(key, value)] := by
  induction entries with
  | nil => rfl
  | cons first rest ih =>
    rw [List.forall_mem_cons] at fresh
    rw [putBy, fresh.1, if_neg Bool.false_ne_true, ih fresh.2, List.cons_append]

theorem forall_putBy (P : κ → Prop) (Q : α → Prop) (same : κ → κ → Bool) (key : κ) (value : α)
    (entries : Entries κ α) (named : P key) (valued : Q value) (each : ∀ row ∈ entries, P row.1 ∧ Q row.2) :
    ∀ row ∈ putBy same key value entries, P row.1 ∧ Q row.2 := by
  induction entries with
  | nil => exact List.forall_mem_singleton.mpr ⟨named, valued⟩
  | cons first rest ih =>
    obtain ⟨here, later⟩ := List.forall_mem_cons.mp each
    unfold putBy
    split
    · exact List.forall_mem_cons.mpr ⟨⟨here.1, valued⟩, later⟩
    · exact List.forall_mem_cons.mpr ⟨here, ih later⟩

theorem forall_ofListBy (P : κ → Prop) (Q : α → Prop) (same : κ → κ → Bool) (pairs : List (κ × α))
    (each : ∀ pair ∈ pairs, P pair.1 ∧ Q pair.2) : ∀ row ∈ ofListBy same pairs, P row.1 ∧ Q row.2 := by
  suffices run : ∀ entries : Entries κ α, (∀ row ∈ entries, P row.1 ∧ Q row.2) →
      ∀ row ∈ pairs.foldl (fun entries pair => putBy same pair.1 pair.2 entries) entries, P row.1 ∧ Q row.2 from
    run [] nofun
  induction pairs with
  | nil => exact fun entries known => known
  | cons pair rest ih =>
    intro entries known
    obtain ⟨here, later⟩ := List.forall_mem_cons.mp each
    exact ih later _ (forall_putBy P Q same pair.1 pair.2 entries here.1 here.2 known)

theorem ofListBy_apart (same : κ → κ → Bool) (pairs : List (κ × α))
    (apart : pairs.Pairwise fun a b => same a.1 b.1 = false) : ofListBy same pairs = pairs := by
  suffices run : ∀ entries : Entries κ α, (∀ row ∈ entries, ∀ pair ∈ pairs, same row.1 pair.1 = false) →
      pairs.foldl (fun entries pair => putBy same pair.1 pair.2 entries) entries = entries ++ pairs from
    run [] nofun
  induction pairs with
  | nil => exact fun entries _ => (List.append_nil entries).symm
  | cons pair rest ih =>
    intro entries fresh
    obtain ⟨first, others⟩ := List.pairwise_cons.mp apart
    rw [List.foldl_cons, putBy_fresh same pair.1 pair.2 entries fun row member =>
      fresh row member pair List.mem_cons_self, ih others, List.append_assoc, List.singleton_append]
    rw [List.forall_mem_append]
    exact ⟨fun row member other later => fresh row member other (List.mem_cons_of_mem _ later),
      List.forall_mem_singleton.mpr first⟩

def readValues (read : α → Option β) (entries : Entries κ α) : Entries κ β :=
  entries.filterMap fun row => (read row.2).map fun value => (row.1, value)

theorem mem_readValues (read : α → Option β) (entries : Entries κ α) (row : κ × β) :
    row ∈ readValues read entries ↔ ∃ own, (row.1, own) ∈ entries ∧ read own = some row.2 := by
  obtain ⟨key, value⟩ := row
  simp [readValues]

theorem keys_readValues (read : α → Option β) (entries : Entries κ α) :
    keys (readValues read entries) = keys (entries.filter fun row => (read row.2).isSome) := by
  induction entries with
  | nil => rfl
  | cons first rest ih =>
    unfold keys readValues at ih ⊢
    cases found : read first.2 <;> simp [found, ih]

theorem readValues_split_iff (read : α → Option β) (entries : Entries κ α) (before after : Entries κ β) (key : κ)
    (value : β) : readValues read entries = before ++ (key, value) :: after ↔
      ∃ earlier own later, entries = earlier ++ (key, own) :: later ∧ read own = some value ∧
        readValues read earlier = before ∧ readValues read later = after := by
  unfold readValues
  constructor
  · intro split
    obtain ⟨earlier, rest, rfl, rfl, tail⟩ := List.filterMap_eq_append_iff.mp split
    obtain ⟨passed, ⟨name, own⟩, later, rfl, unread, here, rfl⟩ := List.filterMap_eq_cons_iff.mp tail
    obtain ⟨_, reads, same⟩ := Option.map_eq_some_iff.mp here
    cases same
    refine ⟨earlier ++ passed, own, later, by simp, reads, ?_, rfl⟩
    rw [List.filterMap_append, List.filterMap_eq_nil_iff.mpr unread, List.append_nil]
  · rintro ⟨earlier, own, later, rfl, reads, rfl, rfl⟩
    simp [reads]

variable [DecidableEq κ]

theorem mem_of_find? (key : κ) (value : α) (entries : Entries κ α)
    (found : find? key entries = some value) : (key, value) ∈ entries := by
  induction entries with
  | nil => cases found
  | cons row rest ih =>
    unfold find? at found
    split at found
    · rename_i same
      cases found
      rw [← same]
      exact List.mem_cons_self
    · exact List.mem_cons_of_mem _ (ih found)

omit [DecidableEq κ] in
theorem keys_cons (first : κ × α) (rest : Entries κ α) : keys (first :: rest) = first.1 :: keys rest := rfl

theorem find?_isSome_iff (key : κ) (entries : Entries κ α) : (find? key entries).isSome ↔ key ∈ keys entries := by
  induction entries with
  | nil => simp [find?, keys]
  | cons first rest ih =>
    rw [keys_cons, List.mem_cons, find?]
    split
    · rename_i same
      simp [same]
    · rename_i differs
      simp [ih, Ne.symm differs]

theorem keys_put_known (key : κ) (value : α) (entries : Entries κ α) (known : key ∈ keys entries) :
    keys (put key value entries) = keys entries := by
  induction entries with
  | nil => cases known
  | cons first rest ih =>
    simp only [put, putBy, decide_eq_true_eq] at ih ⊢
    split
    · rfl
    · rename_i differs
      rw [keys_cons, List.mem_cons] at known
      have later := known.resolve_left fun same => differs same.symm
      rw [keys_cons, keys_cons, ih later]

theorem keys_put_fresh (key : κ) (value : α) (entries : Entries κ α) (fresh : key ∉ keys entries) :
    keys (put key value entries) = keys entries ++ [key] := by
  have apart : ∀ row ∈ entries, decide (row.1 = key) = false := by
    intro row member
    rw [decide_eq_false_iff_not]
    rintro rfl
    exact fresh (List.mem_map_of_mem member)
  rw [put, putBy_fresh _ key value entries apart, keys, List.map_append]
  rfl

theorem keys_put_firsts (names : List κ) (key : κ) (value : α) (entries : Entries κ α)
    (known : keys entries = names.eraseDups) : keys (put key value entries) = (names ++ [key]).eraseDups := by
  rw [eraseDups_concat]
  split <;> rename_i listed <;> rw [← List.mem_eraseDups, ← known] at listed
  · rw [keys_put_known key value entries listed, known]
  · rw [keys_put_fresh key value entries listed, known]

theorem ofList_concat (pairs : List (κ × α)) (last : κ × α) :
    ofList (pairs ++ [last]) = put last.1 last.2 (ofList pairs) := by
  simp [ofList, ofListBy, put]

theorem keys_ofList (pairs : List (κ × α)) : keys (ofList pairs) = (pairs.map (·.1)).eraseDups := by
  induction pairs using List.reverseRecOn with
  | nil => rfl
  | append_singleton pairs last ih =>
    rw [ofList_concat, List.map_append]
    exact keys_put_firsts _ last.1 last.2 _ ih

theorem mem_keys_ofList (key : κ) (pairs : List (κ × α)) : key ∈ keys (ofList pairs) ↔ key ∈ pairs.map (·.1) := by
  rw [keys_ofList, List.mem_eraseDups]

theorem find?_ofList (key : κ) (pairs : List (κ × α)) :
    find? key (ofList pairs) = (pairs.reverse.find? (·.1 == key)).map (·.2) := by
  induction pairs using List.reverseRecOn with
  | nil => rfl
  | append_singleton pairs last ih =>
    rw [ofList_concat, List.reverse_concat, List.find?_cons]
    by_cases same : last.1 = key
    · rw [← same, find?_put_self, beq_self_eq_true]
      rfl
    · rw [find?_put_of_ne _ _ _ _ (Ne.symm same), ih, beq_false_of_ne same]

theorem find?_ofList_iff (key : κ) (value : α) (pairs : List (κ × α)) : find? key (ofList pairs) = some value ↔
    ∃ before after, pairs = before ++ (key, value) :: after ∧ ∀ pair ∈ after, pair.1 ≠ key := by
  rw [find?_ofList, Option.map_eq_some_iff]
  simp only [List.find?_eq_some_iff_append, beq_iff_eq, Bool.not_eq_true', beq_eq_false_iff_ne]
  constructor
  · rintro ⟨⟨_, _⟩, ⟨rfl, later, earlier, turned, others⟩, rfl⟩
    refine ⟨earlier.reverse, later.reverse, ?_, by simpa using others⟩
    simpa using congrArg List.reverse turned
  · rintro ⟨before, after, rfl, others⟩
    exact ⟨(key, value), ⟨rfl, after.reverse, before.reverse, by simp, by simpa using others⟩, rfl⟩

theorem mem_iff_find? (key : κ) (value : α) (entries : Entries κ α) (distinct : (keys entries).Nodup) :
    (key, value) ∈ entries ↔ find? key entries = some value := by
  refine ⟨fun member => ?_, mem_of_find? key value entries⟩
  induction entries with
  | nil => cases member
  | cons first rest ih =>
    obtain ⟨fresh, others⟩ := List.nodup_cons.mp distinct
    unfold find?
    rcases List.mem_cons.mp member with rfl | later
    · rw [if_pos rfl]
    · have listed : key ∈ rest.map Prod.fst := List.mem_map_of_mem (f := Prod.fst) later
      have differs : first.1 ≠ key := by
        intro same
        rw [← same] at listed
        exact fresh listed
      rw [if_neg differs]
      exact ih others later

theorem perm_of_find? (entries others : Entries κ α) (distinct : (keys entries).Nodup)
    (apart : (keys others).Nodup) (same : ∀ key, find? key entries = find? key others) :
    entries.Perm others := by
  rw [List.perm_ext_iff_of_nodup (List.Nodup.of_map Prod.fst distinct) (List.Nodup.of_map Prod.fst apart)]
  rintro ⟨key, value⟩
  rw [mem_iff_find? key value entries distinct, mem_iff_find? key value others apart, same]

theorem mapValues_put (f : α → β) (key : κ) (value : α) (entries : Entries κ α) :
    mapValues f (put key value entries) = put key (f value) (mapValues f entries) := by
  induction entries with
  | nil => rfl
  | cons first rest ih =>
    simp only [put, putBy, mapValues, List.map_cons, decide_eq_true_eq] at ih ⊢
    split
    · rfl
    · rw [List.map_cons, ih]

theorem find?_mapRows (f : κ → α → β) (key : κ) (entries : Entries κ α) :
    find? key (mapRows f entries) = (find? key entries).map (f key) := by
  induction entries with
  | nil => rfl
  | cons first rest ih =>
    simp only [mapRows, List.map_cons, find?] at ih ⊢
    split
    · rename_i same
      rw [same]
      rfl
    · exact ih

theorem find?_mapValues (f : α → β) (key : κ) (entries : Entries κ α) :
    find? key (mapValues f entries) = (find? key entries).map f :=
  find?_mapRows (fun _ => f) key entries

theorem putBy_named {ι : Type} (same : ι → ι → Bool) (named : κ → ι)
    (exact : ∀ a b, same (named a) (named b) = decide (a = b)) (key : κ) (value : α) (entries : Entries κ α) :
    putBy same (named key) value (entries.map fun row => (named row.1, row.2)) =
      (put key value entries).map fun row => (named row.1, row.2) := by
  induction entries with
  | nil => rfl
  | cons first rest ih =>
    simp only [put, putBy, List.map_cons, exact] at ih ⊢
    split
    · rfl
    · rw [ih, List.map_cons]

theorem ofListBy_named {ι : Type} (same : ι → ι → Bool) (named : κ → ι)
    (exact : ∀ a b, same (named a) (named b) = decide (a = b)) (pairs : List (κ × α)) :
    ofListBy same (pairs.map fun pair => (named pair.1, pair.2)) =
      (ofList pairs).map fun row => (named row.1, row.2) := by
  induction pairs using List.reverseRecOn with
  | nil => rfl
  | append_singleton pairs last ih =>
    rw [ofList_concat, ← putBy_named same named exact, ← ih]
    simp [ofListBy]

end UtilityCss.Entries
