import Mathlib.Data.List.Find
import UtilityCss.Proofs.Class.Levels
import UtilityCss.Proofs.Number.Numeral

namespace UtilityCss
open Text

def IsStem (stem : String) : Prop :=
  ∃ first rest, stem.toList = first :: rest ∧ first.isLower = true ∧ ∀ c ∈ rest, c.isLower = true ∨ c = '-'

-- Digits that write a number in base ten, leading zeros or not, and few enough to be read.
structure Writes (digits : String) (n : Nat) : Prop where
  filled : digits ≠ ""
  decimal : ∀ c ∈ digits.toList, c.isDigit = true
  short : digits.toList.length ≤ numeralLimit
  value : Nat.ofDigitChars 10 digits.toList 0 = n

theorem writes_toString (n : Nat) (short : (toString n).toList.length ≤ numeralLimit) : Writes (toString n) n := by
  have shape : (toString n).toList = Nat.toDigits 10 n := by
    rw [Nat.toString_eq_ofList_toDigits, String.toList_ofList]
  refine ⟨?_, ?_, short, ?_⟩
  · intro empty
    rw [empty] at shape
    exact Nat.toDigits_ne_nil shape.symm
  · rw [shape]
    exact fun c member => Nat.isDigit_of_mem_toDigits (by decide) (by decide) member
  · rw [shape]
    exact Nat.ofDigitChars_toDigits (by decide) (by decide)

namespace Group

theorem isStemChar_range (c : Char) : isStemChar c = true ↔ (0x61 ≤ c.toNat ∧ c.toNat ≤ 0x7a) ∨ c = '-' := by
  simp [isStemChar]

theorem isStemChar_iff (c : Char) : isStemChar c = true ↔ c.isLower = true ∨ c = '-' := by
  have lower : c.isLower = true ↔ 0x61 ≤ c.toNat ∧ c.toNat ≤ 0x7a := by
    delta Char.isLower
    simp [UInt32.le_iff_toNat_le]
  rw [isStemChar_range, lower]

theorem isDigit_of_isStemChar (c : Char) (kept : isStemChar c = true) : isDigit c = false := by
  by_contra digit
  obtain ⟨first, listed, within⟩ := isDigit_range c (by simpa using digit)
  have apart := (by decide : ∀ first ∈ digitZeros, (0x2d < first ∧ first + 9 < 0x61) ∨ 0x7a < first) first listed
  rcases (isStemChar_range c).mp kept with letter | rfl
  · omega
  · have hyphen : ('-' : Char).toNat = 0x2d := rfl
    omega

end Group

def numbered (stem digits : String) : String := stem ++ "-" ++ digits

theorem toList_numbered (stem digits : String) :
    (numbered stem digits).toList = (stem ++ "-").toList ++ digits.toList := String.toList_append

section
variable {stem digits : String} {n : Nat}

theorem IsStem.chars (named : IsStem stem) : ∀ c ∈ (stem ++ "-").toList, Group.isStemChar c = true := by
  obtain ⟨c, rest, shape, letter, later⟩ := named
  rw [String.toList_append, shape, List.forall_mem_append, List.forall_mem_cons]
  refine ⟨⟨(Group.isStemChar_iff c).mpr (.inl letter), fun d member => ?_⟩, List.forall_mem_singleton.mpr rfl⟩
  exact (Group.isStemChar_iff d).mpr (later d member)

theorem Writes.written (writes : Writes digits n) : digits.toList ≠ [] := mt String.toList_eq_nil_iff.mp writes.filled

theorem digitValue?_of_decimal (c : Char) (decimal : c.isDigit = true) : digitValue? c = some (c.toNat - 0x30) := by
  have within : 0x30 ≤ c.toNat ∧ c.toNat ≤ 0x30 + 9 := Char.isDigit_iff_toNat.mp decimal
  have found : digitZeros.find? (fun first => first ≤ c.toNat && c.toNat ≤ first + 9) = some 0x30 :=
    List.find?_cons_of_pos (by simpa using within)
  rw [digitValue?, found, Option.map_some]

theorem Writes.digit (writes : Writes digits n) : ∀ c ∈ digits.toList, isDigit c = true := by
  intro c member
  rw [isDigit, digitValue?_of_decimal c (writes.decimal c member)]
  rfl

theorem Writes.numeralValue (writes : Writes digits n) : numeralValue digits.toList = n := by
  rw [← writes.value, Text.numeralValue, Nat.ofDigitChars]
  refine List.foldl_ext _ _ 0 fun total c member => ?_
  rw [digitValue?_of_decimal c (writes.decimal c member), Option.getD_some, Nat.mul_comm]
  rfl

theorem numbered_key (named : IsStem stem) (writes : Writes digits n) :
    NaturalPart.key (numbered stem digits) = .ok [.text (stem ++ "-"), .number n] := by
  have outside : ∀ c ∈ (stem ++ "-").toList, isDigit c = false := fun c member =>
    Group.isDigit_of_isStemChar c (named.chars c member)
  have filled : (stem ++ "-").toList ≠ [] := by simp
  have runs : NaturalPart.runs (numbered stem digits).toList = [(stem ++ "-").toList, digits.toList] := by
    rw [toList_numbered]
    exact splitBy_pair _ _ filled outside writes.written writes.digit
  have lead := NaturalPart.ofRun_text _ filled outside ⟨'-', by simp, by decide⟩
  have number := NaturalPart.ofRun_digits _ writes.digit writes.short
  rw [NaturalPart.key, runs, List.mapM_cons, lead, List.mapM_cons, number, NaturalPart.part, NaturalPart.part,
    NaturalPart.no_number _ filled outside, List.all_eq_true.mpr writes.digit, if_neg Bool.false_ne_true, if_pos rfl,
    String.ofList_toList, writes.numeralValue]
  rfl

theorem numbered_readable (named : IsStem stem) (writes : Writes digits n) :
    NaturalPart.Readable (numbered stem digits) := by
  rw [NaturalPart.readable_iff, numbered_key named writes]
  rfl

theorem numbered_parts (named : IsStem stem) (writes : Writes digits n) :
    NaturalPart.parts (numbered stem digits) = [.text (stem ++ "-"), .number n] := by
  have key := NaturalPart.key_of_readable _ (numbered_readable named writes)
  rw [numbered_key named writes] at key
  exact (Except.ok.inj key).symm

theorem numbered_split (named : IsStem stem) (writes : Writes digits n) :
    (numbered stem digits).toList.takeWhile Group.isStemChar = (stem ++ "-").toList ∧
      (numbered stem digits).toList.dropWhile Group.isStemChar = digits.toList := by
  rw [toList_numbered]
  apply run_of_all _ _ named.chars
  intro c first
  have digit := writes.digit c (List.mem_of_mem_head? first)
  by_contra kept
  rw [Group.isDigit_of_isStemChar c (by simpa using kept)] at digit
  cases digit

theorem numbered_head (named : IsStem stem) (digits : String) : ∃ c, (numbered stem digits).toList.head? = some c ∧
    0x61 ≤ c.toNat ∧ c.toNat ≤ 0x7a := by
  obtain ⟨c, rest, shape, letter, _⟩ := named
  have kept := (Group.isStemChar_range c).mp ((Group.isStemChar_iff c).mpr (.inl letter))
  refine ⟨c, ?_, kept.resolve_right ?_⟩
  · rw [toList_numbered, String.toList_append, shape]
    rfl
  · rintro rfl
    cases letter

theorem numbered_chars (named : IsStem stem) (writes : Writes digits n) :
    ∀ c ∈ (numbered stem digits).toList, Group.isStemChar c = true ∨ isDigit c = true := by
  rw [toList_numbered, List.forall_mem_append]
  exact ⟨fun c member => .inl (named.chars c member), fun c member => .inr (writes.digit c member)⟩

theorem numbered_isBare (named : IsStem stem) (writes : Writes digits n) : Chain.IsBare (numbered stem digits) := by
  obtain ⟨c, begins, letter⟩ := numbered_head named digits
  refine ⟨?_, ?_, ?_⟩
  · intro empty
    rw [empty] at begins
    cases begins
  · rw [trim_eq_self]
    constructor
    · intro d first
      rw [begins] at first
      cases first
      exact isBlank_of_range c (by omega)
    · intro d last
      rw [toList_numbered, List.getLast?_append_of_ne_nil _ writes.written] at last
      exact isBlank_of_isDigit d (writes.digit d (List.mem_of_getLast? last))
  · have plain : Chain.marks.all (fun mark => !Group.isStemChar mark && !isDigit mark) = true := by decide
    refine (Inert.closed (Chain.inert_of_unmarked _ fun d member mark => ?_) 0).1
    have other := List.all_eq_true.mp plain d mark
    rcases numbered_chars named writes d member with kept | kept <;> simp [kept] at other

theorem numbered_bare (named : IsStem stem) : Group.bare (numbered stem digits) = numbered stem digits := by
  obtain ⟨c, begins, letter⟩ := numbered_head named digits
  have kept (mark : Char) (outside : mark.toNat < 0x61) :
      (numbered stem digits).toList.dropWhile (· == mark) = (numbered stem digits).toList := by
    apply dropWhile_of_head
    intro d first
    rw [begins] at first
    cases first
    rw [beq_eq_false_iff_ne]
    rintro rfl
    omega
  rw [Group.bare, kept '!' (by decide), kept '-' (by decide), String.ofList_toList]

theorem numbered_stem (named : IsStem stem) (writes : Writes digits n) :
    Group.stemOfBare (numbered stem digits).toList = (stem ++ "-").toList := by
  obtain ⟨lead, number⟩ := numbered_split named writes
  have unbracketed : (numbered stem digits).toList.takeWhile (· != '[') = (numbered stem digits).toList := by
    rw [List.takeWhile_eq_self_iff]
    intro c member
    rw [bne_iff_ne]
    rintro rfl
    exact absurd (numbered_chars named writes '[' member) (by decide)
  obtain ⟨c, rest, shape⟩ := List.exists_cons_of_ne_nil writes.written
  have digit := writes.digit c (by rw [shape]; exact List.mem_cons_self)
  have found : Group.numberedStem? (numbered stem digits).toList = some (stem ++ "-").toList := by
    unfold Group.numberedStem?
    rw [lead, number, shape]
    simp [digit]
  rw [Group.stemOfBare, unbracketed, found]
  simp

end

namespace Group

def zeroed : List String := ["grow-0", "shrink-0"]

def ofLead (lead : String) : Group :=
  match families.find? fun family => beginsWithAny family.stems lead with
  | some family => family.group
  | none => .misc

theorem families_numberless : ∀ family ∈ families,
    (∀ stem ∈ family.stems, stem.toList.all (!Char.isDigit ·) = true) ∧
      ∀ name ∈ family.names, name ∈ zeroed ∨ name.toList.getLast?.all (!Char.isDigit ·) = true := by decide +kernel

theorem zeroed_apart : ∀ name ∈ zeroed, ofBare name = .flexGrid ∧ name.toList.dropWhile isStemChar = ['0'] ∧
    ofLead (String.ofList (name.toList.takeWhile isStemChar)) = .misc := by decide +kernel

theorem beginsWith_numbered (other lead digits : String) (numberless : other.toList.all (!Char.isDigit ·) = true)
    (decimal : ∀ c ∈ digits.toList, c.isDigit = true) :
    beginsWith other (lead ++ digits) = beginsWith other lead := by
  rw [Bool.eq_iff_iff]
  refine ⟨fun begins => ?_, beginsWith_extended other lead digits⟩
  rcases beginsWith_either other lead digits begins with within | beyond
  · exact within
  · unfold beginsWith at begins beyond ⊢
    rw [List.isPrefixOf_iff_prefix] at begins beyond ⊢
    obtain ⟨rest, whole⟩ := beyond
    rw [← whole, String.toList_append, List.prefix_append_right_inj] at begins
    cases rest with
    | nil => rw [← whole, List.append_nil]
    | cons c tail =>
      have counts := decimal c (begins.subset List.mem_cons_self)
      have none := List.all_eq_true.mp numberless c (whole ▸ List.mem_append_right _ List.mem_cons_self)
      simp [counts] at none

variable {stem digits : String} {n : Nat}

theorem holds_numbered (family : Family) (member : family ∈ families) (writes : Writes digits n)
    (other : numbered stem digits ∉ zeroed) :
    family.holds (numbered stem digits) = beginsWithAny family.stems (stem ++ "-") := by
  obtain ⟨stems, names⟩ := families_numberless family member
  have unnamed : family.names.contains (numbered stem digits) = false := by
    rw [Bool.eq_false_iff, ne_eq, List.contains_iff_mem]
    intro listed
    have last := (names _ listed).resolve_left other
    rw [toList_numbered, List.getLast?_append_of_ne_nil _ writes.written,
      List.getLast?_eq_some_getLast writes.written, Option.all_some, writes.decimal _ (List.getLast_mem _)] at last
    cases last
  rw [Family.holds, unnamed, Bool.false_or, beginsWithAny, beginsWithAny, Bool.eq_iff_iff, List.any_eq_true,
    List.any_eq_true]
  refine exists_congr fun own => and_congr_right fun known => ?_
  rw [numbered, beginsWith_numbered own (stem ++ "-") digits (stems own known) writes.decimal]

theorem ofBare_numbered (writes : Writes digits n) (other : numbered stem digits ∉ zeroed) :
    ofBare (numbered stem digits) = ofLead (stem ++ "-") := by
  have found : families.find? (·.holds (numbered stem digits)) =
      families.find? fun family => beginsWithAny family.stems (stem ++ "-") :=
    List.find?_congr fun family member => holds_numbered family member writes other
  rw [ofBare, found]
  rfl

theorem zeroed_numbered (named : IsStem stem) (writes : Writes digits n) (listed : numbered stem digits ∈ zeroed) :
    n = 0 ∧ ofBare (numbered stem digits) = .flexGrid ∧ ofLead (stem ++ "-") = .misc := by
  obtain ⟨first, zero, last⟩ := zeroed_apart _ listed
  obtain ⟨lead, number⟩ := numbered_split named writes
  rw [number] at zero
  rw [lead, String.ofList_toList] at last
  refine ⟨?_, first, last⟩
  rw [← writes.value, zero]
  rfl

theorem ofBare_numbered_le (named : IsStem stem) (less more : String) (m : Nat) (first : Writes less m)
    (second : Writes more n) (before : m < n) :
    (ofBare (numbered stem less)).number ≤ (ofBare (numbered stem more)).number := by
  have counted : numbered stem more ∉ zeroed := by
    intro listed
    have zero := (zeroed_numbered named second listed).1
    omega
  rw [ofBare_numbered second counted]
  by_cases listed : numbered stem less ∈ zeroed
  · obtain ⟨_, early, late⟩ := zeroed_numbered named first listed
    rw [early, late]
    decide
  · rw [ofBare_numbered first listed]

end Group

theorem ClassKey.before_of_parts (k l : ClassKey) (depth : k.depth = l.depth) (ranks : k.ranks = l.ranks)
    (lead : k.lead = l.lead) (group : k.group ≤ l.group) (stem : k.stem = l.stem)
    (parts : compare k.parts l.parts = .lt) : (compare k l).isLE = true := by
  change (compareLex _ _ k l).isLE = true
  simp only [compareLex, compareOn, depth, ranks, lead, stem, parts, Std.ReflCmp.compare_self]
  rcases Nat.lt_or_eq_of_le group with earlier | same
  · rw [Nat.compare_eq_lt.mpr earlier]
    rfl
  · rw [same, Nat.compare_eq_eq.mpr rfl]
    rfl

theorem compare_numbers (text : String) (m n : Nat) (before : m < n) :
    compare [NaturalPart.text text, .number m] [.text text, .number n] = .lt := by
  have numbers : compare (NaturalPart.number m) (.number n) = .lt := by
    change compareLex _ _ _ _ = .lt
    simp only [compareLex, compareOn, NaturalPart.kind, NaturalPart.numberValue, Nat.compare_eq_lt.mpr before]
    rfl
  have texts : compare (NaturalPart.text text) (.text text) = .eq := Std.ReflCmp.compare_self
  rw [List.compare_cons_cons, List.compare_cons_cons, texts, numbers]
  rfl

def numberedClass (variants : List String) (stem digits : String) : String :=
  Chain.render ⟨variants, numbered stem digits⟩

section
variable {variants : List String} {stem digits : String} {n : Nat}

theorem parse_numbered (segments : ∀ variant ∈ variants, Chain.IsVariant variant) (named : IsStem stem)
    (writes : Writes digits n) :
    Chain.parse (numberedClass variants stem digits) = ⟨variants, numbered stem digits⟩ :=
  Chain.parse_render variants _ segments (numbered_isBare named writes).base

theorem parse_numbered_unled (named : IsStem stem) (writes : Writes digits n) :
    Chain.parse (numbered stem digits) = ⟨[], numbered stem digits⟩ := by
  have alone := parse_numbered (List.forall_mem_nil _) named writes
  rwa [numberedClass, Chain.render_unled] at alone

theorem readable_numbered (screens : List String) (segments : ∀ variant ∈ variants, Chain.IsVariant variant)
    (named : IsStem stem) (writes : Writes digits n) :
    ClassKey.readable screens (numberedClass variants stem digits) =
      ⟨variants.length, variants.map (VariantRank.of screens), Chain.lead variants,
        (Group.ofBare (numbered stem digits)).number, stem ++ "-", [.text (stem ++ "-"), .number n],
        numbered stem digits⟩ := by
  rw [ClassKey.readable, parse_numbered segments named writes, Group.ofClass, Group.stemOfClass,
    parse_numbered_unled named writes, numbered_bare named, numbered_stem named writes, String.ofList_toList,
    numbered_parts named writes]

theorem precedes_numbered (screens : List String) (segments : ∀ variant ∈ variants, Chain.IsVariant variant)
    (named : IsStem stem) (less more : String) (m : Nat) (first : Writes less m) (second : Writes more n)
    (before : m < n) : precedes screens (numberedClass variants stem less)
      (numberedClass variants stem more) = true := by
  rw [precedes, readable_numbered screens segments named first, readable_numbered screens segments named second]
  exact ClassKey.before_of_parts _ _ rfl rfl rfl (Group.ofBare_numbered_le named less more m first second before) rfl
    (compare_numbers (stem ++ "-") m n before)

theorem canonical_numbered (segments : ∀ variant ∈ variants, Chain.IsVariant variant) (named : IsStem stem)
    (writes : Writes digits n) : Chain.canonical (numberedClass variants stem digits) =
      numberedClass (Chain.settled variants) stem digits :=
  Chain.canonical_of_variants variants _ segments (numbered_isBare named writes)

theorem legible_numbered (segments : ∀ variant ∈ variants, Chain.IsVariant variant) (named : IsStem stem)
    (writes : Writes digits n) : Legible (numberedClass variants stem digits) := by
  have settled := Chain.settled_variants variants segments
  rw [legible_canonical, canonical_numbered segments named writes, parse_numbered settled named writes]
  exact numbered_readable named writes

theorem mem_sorted_numbered (segments : ∀ variant ∈ variants, Chain.IsVariant variant) (named : IsStem stem)
    (writes : Writes digits n) (screens classes sorted : List String)
    (returns : sortClasses screens classes = .ok sorted)
    (given : numberedClass variants stem digits ∈ classes) :
    numberedClass (Chain.settled variants) stem digits ∈ sorted := by
  rw [mem_of_sorted screens classes sorted returns]
  exact ⟨Chain.render_ne_empty _ _ (numbered_isBare named writes).filled, _, given,
    canonical_numbered segments named writes⟩

theorem numbered_apart (segments : ∀ variant ∈ variants, Chain.IsVariant variant) (named : IsStem stem)
    (less more : String) (m : Nat) (first : Writes less m) (second : Writes more n) (before : m < n) :
    numberedClass variants stem less ≠ numberedClass variants stem more := by
  intro same
  have keys := congrArg (ClassKey.parts ∘ ClassKey.readable []) same
  simp only [Function.comp_apply, readable_numbered [] segments named first, readable_numbered [] segments named second,
    List.cons.injEq, NaturalPart.number.injEq] at keys
  omega

end

theorem pair_sublist {α : Type} {before : α → α → Prop} (antisymm : ∀ a b, before a b → before b a → a = b)
    (xs : List α) (ordered : xs.Pairwise before) (a b : α) (one : a ∈ xs) (other : b ∈ xs) (differ : a ≠ b)
    (first : before a b) : [a, b].Sublist xs := by
  obtain ⟨front, back, rfl⟩ := List.append_of_mem one
  obtain ⟨_, _, across⟩ := List.pairwise_append.mp ordered
  rcases List.mem_append.mp other with early | late
  · exact absurd (antisymm a b first (across b early a List.mem_cons_self)) differ
  · have behind := (List.mem_cons.mp late).resolve_left differ.symm
    exact ((List.singleton_sublist.mpr behind).cons_cons a).trans (List.sublist_append_right front _)

theorem sublist_of_sorted_numbered (screens variants classes sorted : List String)
    (segments : ∀ variant ∈ variants, Chain.IsVariant variant) (stem : String) (named : IsStem stem)
    (less more : String) (m n : Nat) (first : Writes less m) (second : Writes more n) (before : m < n)
    (returns : sortClasses screens classes = .ok sorted) (low : numberedClass variants stem less ∈ classes)
    (high : numberedClass variants stem more ∈ classes) :
    [numberedClass (Chain.settled variants) stem less, numberedClass (Chain.settled variants) stem more].Sublist
      sorted := by
  have settled := Chain.settled_variants variants segments
  obtain ⟨_, _, ordered⟩ := (sortClasses_eq_ok_iff screens classes sorted).mp returns
  apply pair_sublist (precedes_antisymm screens) sorted ordered
  · exact mem_sorted_numbered segments named first screens classes sorted returns low
  · exact mem_sorted_numbered segments named second screens classes sorted returns high
  · exact numbered_apart settled named less more m first second before
  · exact precedes_numbered screens settled named less more m first second before

theorem sortClasses_numbered (screens variants : List String)
    (segments : ∀ variant ∈ variants, Chain.IsVariant variant) (stem : String) (named : IsStem stem)
    (less more : String) (m n : Nat) (first : Writes less m) (second : Writes more n) (before : m < n) :
    let written := [numberedClass variants stem less, numberedClass variants stem more]
    let returned := [numberedClass (Chain.settled variants) stem less, numberedClass (Chain.settled variants) stem more]
    (∀ given : List String, given.Perm written → sortClasses screens given = .ok returned) ∧
    ∀ classes : List String, written ⊆ classes → (∀ name ∈ classes, Legible name) →
      ∃ sorted, sortClasses screens classes = .ok sorted ∧ returned.Sublist sorted := by
  intro written returned
  have among : ∀ classes : List String, written ⊆ classes → (∀ name ∈ classes, Legible name) →
      ∃ sorted, sortClasses screens classes = .ok sorted ∧ returned.Sublist sorted := by
    intro classes given legible
    obtain ⟨sorted, returns⟩ := (sortClasses_returns_iff screens classes).mpr legible
    obtain ⟨low, high⟩ := List.cons_subset.mp given
    exact ⟨sorted, returns, sublist_of_sorted_numbered screens variants classes sorted segments stem named less more m n
      first second before returns low (high List.mem_cons_self)⟩
  refine ⟨fun given same => ?_, among⟩
  have legible : ∀ name ∈ given, Legible name := by
    intro name member
    rcases List.mem_pair.mp (same.mem_iff.mp member) with rfl | rfl
    · exact legible_numbered segments named first
    · exact legible_numbered segments named second
  obtain ⟨sorted, returns, within⟩ := among given same.symm.subset legible
  -- Nothing else is returned, and nothing twice, so that the two make up the whole list.
  have nothingElse : sorted ⊆ returned := by
    intro name member
    obtain ⟨_, source, known, rfl⟩ := (mem_of_sorted screens given sorted returns name).mp member
    rcases List.mem_pair.mp (same.mem_iff.mp known) with rfl | rfl
    · rw [canonical_numbered segments named first]
      exact List.mem_cons_self
    · rw [canonical_numbered segments named second]
      exact List.mem_cons_of_mem _ List.mem_cons_self
  have short := ((nodup_of_sorted screens given sorted returns).subperm nothingElse).length_le
  rw [returns, within.eq_of_length_le short]

theorem sortClasses_numbered_of_grow :
    let variants := [" md", "data-[x:y]", "md"]
    let others := ["grow-5", " md:data-[x:y]:md:grow-010", "p-1", " md:data-[x:y]:md:grow-0"]
    (∀ variant ∈ variants, Chain.IsVariant variant) ∧ IsStem "grow" ∧ Writes "0" 0 ∧ Writes "010" 10 ∧ 0 < 10 ∧
      sortClasses ["md"] [" md:data-[x:y]:md:grow-010", " md:data-[x:y]:md:grow-0"] =
        .ok ["md:data-[x:y]:grow-0", "md:data-[x:y]:grow-010"] ∧
      (∀ name ∈ others, Legible name) ∧
      ∃ sorted, sortClasses [] others = .ok sorted ∧
        ["md:data-[x:y]:grow-0", "md:data-[x:y]:grow-010"].Sublist sorted := by
  intro variants others
  have segments : ∀ variant ∈ variants, Chain.IsVariant variant := by decide
  have letters : ['r', 'o', 'w'].all Char.isLower = true := by decide
  have decimal : "010".toList.all Char.isDigit = true := by decide
  have named : IsStem "grow" :=
    ⟨'g', ['r', 'o', 'w'], rfl, rfl, fun c member => .inl (List.all_eq_true.mp letters c member)⟩
  have low : Writes "0" 0 := writes_toString 0 (by decide)
  have high : Writes "010" 10 := ⟨by decide, List.all_eq_true.mp decimal, by decide, rfl⟩
  have legible : ∀ name ∈ others, Legible name := by decide +kernel
  obtain ⟨swapped, _⟩ := sortClasses_numbered ["md"] variants segments "grow" named "0" "010" 0 10 low high (by decide)
  obtain ⟨_, among⟩ := sortClasses_numbered [] variants segments "grow" named "0" "010" 0 10 low high (by decide)
  have cut : Chain.settled variants = ["md", "data-[x:y]"] := by decide +kernel
  rw [cut] at swapped among
  exact ⟨segments, named, low, high, by decide, swapped _ (.swap _ _ _), legible, among others (by decide) legible⟩

end UtilityCss
