import Mathlib.Data.List.DropRight
import UtilityCss.Report.Columns

namespace UtilityCss
open Text

namespace Text

variable {drop : Char → Bool}

theorem rdropWhile_behind (front back : List Char) (c : Char) (kept : drop c = false) :
    (front ++ c :: back).rdropWhile drop = front ++ c :: back.rdropWhile drop := by
  induction back using List.reverseRecOn with
  | nil => exact List.rdropWhile_concat_neg drop front c (by simp [kept])
  | append_singleton back last ih =>
    rw [← List.cons_append, ← List.append_assoc, List.rdropWhile_concat, List.rdropWhile_concat]
    split
    · exact ih
    · rw [List.append_assoc, List.cons_append]

theorem tail_rdropWhile (c : Char) (cs : List Char) : ((c :: cs).rdropWhile drop).tail = cs.rdropWhile drop := by
  induction cs using List.reverseRecOn with
  | nil =>
    rw [List.rdropWhile_singleton]
    split <;> rfl
  | append_singleton cs last ih =>
    rw [← List.cons_append, List.rdropWhile_concat, List.rdropWhile_concat]
    split
    · exact ih
    · rfl

def SingleLine (s : String) : Prop := '\n' ∉ s.toList

instance (s : String) : Decidable (SingleLine s) := inferInstanceAs (Decidable (_ ∉ _))

theorem singleLine_append (s t : String) : SingleLine (s ++ t) ↔ SingleLine s ∧ SingleLine t := by
  simp [SingleLine]

theorem singleLine_replicate (n : Nat) (c : Char) (other : c ≠ '\n') :
    SingleLine (String.ofList (List.replicate n c)) := by
  simp [SingleLine, other.symm]

theorem SingleLine.trimEnd {s : String} (single : SingleLine s) : SingleLine (trimEnd s) := by
  intro broken
  rw [toList_trimEnd] at broken
  exact single ((List.rdropWhile_prefix isBlank s.toList).subset broken)

end Text

theorem Css.Declaration.singleLine_line (d : Css.Declaration) (named : SingleLine d.property)
    (valued : SingleLine d.value) : SingleLine d.line := by
  simp only [line, singleLine_append]
  exact ⟨⟨⟨named, by decide⟩, valued⟩, by decide⟩

namespace Columns

-- A line with its separator after the left column, and one more character on either side of the separator.
structure Parted (width : Nat) (separator : Char) (left right text : List Char) : Prop where
  left : text.take width = left
  separator : text[width + 1]? = some separator
  right : text.drop (width + 3) = right

theorem parted_of_parts (width : Nat) (front gap : List Char) (before separator : Char) (fits : front.length = width) :
    Parted width separator front gap.tail (front ++ before :: separator :: gap) := by
  subst fits
  refine ⟨List.take_left, by simp, ?_⟩
  rw [List.drop_append, List.drop_eq_nil_of_le (Nat.le_add_right _ _), List.nil_append, Nat.add_sub_cancel_left,
    List.drop_succ_cons, List.drop_succ_cons, List.drop_one]

theorem toList_padRight (width : Nat) (s : String) : (padRight width s).toList = s.toList.rightpad width ' ' := by
  rw [padRight, String.toList_append, String.toList_ofList, List.rightpad, String.length_toList]

theorem getD_mem (column : List String) (index : Nat) : column.getD index "" ∈ "" :: column := by
  rw [List.getD_eq_getElem?_getD]
  cases found : column[index]? with
  | none => exact List.mem_cons_self
  | some text => exact List.mem_cons_of_mem _ (List.mem_of_getElem? found)

section
variable (columns : Columns)

theorem width_eq : ("CSS".length :: columns.cssLines.map String.length).max? = some columns.width :=
  List.max?_cons'

theorem length_le_width (s : String) (listed : s ∈ "CSS" :: columns.cssLines) : s.length ≤ columns.width := by
  have greatest := (List.max?_eq_some_iff.mp columns.width_eq).2
  exact greatest s.length (List.mem_map_of_mem (f := String.length) listed)

theorem padded_fits (s : String) (listed : s ∈ "" :: "CSS" :: columns.cssLines) :
    (s.toList.rightpad columns.width ' ').length = columns.width := by
  have within : s.length ≤ columns.width := by
    rcases List.mem_cons.mp listed with rfl | filled
    · exact Nat.zero_le _
    · exact columns.length_le_width s filled
  rw [List.length_rightpad, String.length_toList]
  exact Nat.max_eq_left within

theorem header_parted : Parted columns.width '|' ("CSS".toList.rightpad columns.width ' ') "Tailwind".toList
    (padRight columns.width "CSS" ++ " | Tailwind").toList := by
  have fits := columns.padded_fits "CSS" (by simp)
  rw [String.toList_append, toList_padRight]
  exact parted_of_parts columns.width _ (' ' :: "Tailwind".toList) ' ' '|' fits

theorem rule_parted : Parted columns.width '+' (List.replicate columns.width '-') (List.replicate 8 '-')
    (String.ofList (List.replicate columns.width '-') ++ "-+-" ++ String.ofList (List.replicate 8 '-')).toList := by
  rw [String.toList_append, String.toList_append, String.toList_ofList, String.toList_ofList, List.append_assoc]
  exact parted_of_parts columns.width _ ('-' :: List.replicate 8 '-') '-' '+' List.length_replicate

theorem toList_row (index : Nat) : (columns.row index).toList =
    (columns.cssLines.getD index "").toList.rightpad columns.width ' ' ++
      ' ' :: '|' :: (' ' :: (columns.classLines.getD index "").toList).rdropWhile isBlank := by
  have kept : isBlank '|' = false := by decide
  have behind := rdropWhile_behind ((columns.cssLines.getD index "").toList.rightpad columns.width ' ' ++ [' '])
    (' ' :: (columns.classLines.getD index "").toList) '|' kept
  rw [List.append_assoc, List.append_assoc] at behind
  rw [row, toList_trimEnd, String.toList_append, String.toList_append, toList_padRight, List.append_assoc]
  exact behind

theorem row_parted (index : Nat) : Parted columns.width '|'
    ((columns.cssLines.getD index "").toList.rightpad columns.width ' ')
    ((columns.classLines.getD index "").toList.rdropWhile isBlank) (columns.row index).toList := by
  have listed : columns.cssLines.getD index "" ∈ "" :: "CSS" :: columns.cssLines :=
    List.cons_subset_cons "" (List.subset_cons_self _ _) (getD_mem columns.cssLines index)
  rw [toList_row, ← tail_rdropWhile ' ']
  exact parted_of_parts columns.width _ _ ' ' '|' (columns.padded_fits _ listed)

theorem padRight_singleLine (width : Nat) (s : String) (single : SingleLine s) : SingleLine (padRight width s) :=
  (singleLine_append _ _).mpr ⟨single, singleLine_replicate _ ' ' (by decide)⟩

theorem row_singleLine (index : Nat) (line : SingleLine (columns.cssLines.getD index ""))
    (name : SingleLine (columns.classLines.getD index "")) : SingleLine (columns.row index) := by
  have padded := padRight_singleLine columns.width _ line
  apply SingleLine.trimEnd
  simp only [singleLine_append]
  exact ⟨⟨padded, by decide⟩, name⟩

section
variable (lines : ∀ line ∈ columns.cssLines, SingleLine line) (names : ∀ name ∈ columns.classLines, SingleLine name)
include lines names

theorem rows_singleLine : ∀ row ∈ columns.rows, SingleLine row := by
  have empty : SingleLine "" := by decide
  have header := padRight_singleLine columns.width "CSS" (by decide)
  have rule (n : Nat) := singleLine_replicate n '-' (by decide)
  have each (index : Nat) : SingleLine (columns.row index) := by
    apply columns.row_singleLine index
    · exact List.forall_mem_cons.mpr ⟨empty, lines⟩ _ (getD_mem columns.cssLines index)
    · exact List.forall_mem_cons.mpr ⟨empty, names⟩ _ (getD_mem columns.classLines index)
  simp only [rows, List.forall_mem_cons, List.forall_mem_map, singleLine_append]
  exact ⟨⟨header, by decide⟩, ⟨⟨rule _, by decide⟩, rule 8⟩, fun index _ => each index⟩

theorem splitOn_text : columns.text.toList.splitOn '\n' = columns.rows.map String.toList := by
  have unbroken : ∀ row ∈ columns.rows.map String.toList, '\n' ∉ row :=
    List.forall_mem_map.mpr (columns.rows_singleLine lines names)
  rw [text, String.toList_intercalate]
  exact List.splitOn_intercalate '\n' unbroken (by simp [rows])

end
end

theorem text_of_columns (declarations : List Css.Declaration) (classes : List String)
    (single : ∀ d ∈ declarations, SingleLine d.property ∧ SingleLine d.value)
    (named : ∀ name ∈ classes, SingleLine name) :
    let lines := (of declarations classes).text.toList.splitOn '\n'
    let width := (of declarations classes).width
    ("CSS".length :: declarations.map (·.line.length)).max? = some width ∧
      lines.length = 2 + max declarations.length classes.length ∧
      (∃ head, lines[0]? = some head ∧ Parted width '|' ("CSS".toList.rightpad width ' ') "Tailwind".toList head) ∧
      (∃ rule, lines[1]? = some rule ∧
        Parted width '+' (List.replicate width '-') (List.replicate 8 '-') rule) ∧
      ∀ k < max declarations.length classes.length, ∃ row, lines[k + 2]? = some row ∧
        Parted width '|' (((declarations[k]?.map (·.line)).getD "").toList.rightpad width ' ')
          ((classes[k]?.getD "").toList.rdropWhile isBlank) row := by
  intro lines width
  -- No row has a line break in it, so the lines of the text are the rows.
  have unbroken : ∀ line ∈ declarations.map (·.line), SingleLine line :=
    List.forall_mem_map.mpr fun d known => d.singleLine_line (single d known).1 (single d known).2
  have split : lines = (of declarations classes).rows.map String.toList := splitOn_text _ unbroken named
  have height : (of declarations classes).height = max declarations.length classes.length := by
    rw [height, of, List.length_map]
  have longest := (of declarations classes).width_eq
  rw [of, List.map_map] at longest
  rw [split]
  refine ⟨longest, ?_, ⟨_, rfl, header_parted _⟩, ⟨_, rfl, rule_parted _⟩, fun k within => ?_⟩
  · rw [List.length_map, rows, List.length_cons, List.length_cons, List.length_map, List.length_range, height]
    omega
  · rw [← height] at within
    have found : ((of declarations classes).rows.map String.toList)[k + 2]? =
        some ((of declarations classes).row k).toList := by
      simp [rows, within]
    have parted := (of declarations classes).row_parted k
    rw [List.getD_eq_getElem?_getD, List.getD_eq_getElem?_getD, of, List.getElem?_map] at parted
    exact ⟨_, found, parted⟩

theorem text_of_columns_of_blanks :
    let declarations : List Css.Declaration := [⟨"quotes", "\u300c \u300d", ["md"]⟩]
    let classes := ["p-4 \u3000", " \t"]
    (∀ d ∈ declarations, SingleLine d.property ∧ SingleLine d.value) ∧ (∀ name ∈ classes, SingleLine name) ∧
      (of declarations classes).text =
        "CSS          | Tailwind\n-------------+---------\nquotes: \u300c \u300d; | p-4\n             |" ∧
      ((of declarations classes).text.toList.splitOn '\n').length = 4 ∧
      ∃ row, ((of declarations classes).text.toList.splitOn '\n')[3]? = some row ∧
        Parted 12 '|' (List.replicate 12 ' ') [] row := by
  intro declarations classes
  have single : ∀ d ∈ declarations, SingleLine d.property ∧ SingleLine d.value := by decide
  have named : ∀ name ∈ classes, SingleLine name := by decide
  obtain ⟨_, count, _, _, each⟩ := text_of_columns declarations classes single named
  obtain ⟨row, found, parted⟩ := each 1 (by decide)
  have width : (of declarations classes).width = 12 := by decide +kernel
  have left : ((declarations[1]?.map (·.line)).getD "").toList.rightpad 12 ' ' = List.replicate 12 ' ' := by decide
  have right : (classes[1]?.getD "").toList.rdropWhile isBlank = [] := by decide +kernel
  rw [width, left, right] at parted
  exact ⟨single, named, by decide +kernel, count, row, found, parted⟩

end Columns
end UtilityCss
