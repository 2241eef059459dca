import UtilityCss.Css.Declaration

namespace UtilityCss
open Text

structure Columns where
  cssLines : List String
  classLines : List String
deriving DecidableEq, Repr

namespace Columns

def of (declarations : List Css.Declaration) (classes : List String) : Columns :=
  ⟨declarations.map (·.line), classes⟩

def padRight (width : Nat) (s : String) : String :=
  s ++ String.ofList (List.replicate (width - s.length) ' ')

def width (columns : Columns) : Nat :=
  (columns.cssLines.map (·.length)).foldl max "CSS".length

def row (columns : Columns) (index : Nat) : String :=
  trimEnd (padRight columns.width (columns.cssLines.getD index "") ++ " | " ++
    columns.classLines.getD index "")

def height (columns : Columns) : Nat := max columns.cssLines.length columns.classLines.length

def rows (columns : Columns) : List String :=
  (padRight columns.width "CSS" ++ " | Tailwind") ::
    (String.ofList (List.replicate columns.width '-') ++ "-+-" ++
      String.ofList (List.replicate 8 '-')) ::
    (List.range columns.height).map columns.row

def text (columns : Columns) : String := String.intercalate "\n" columns.rows

end Columns
end UtilityCss
