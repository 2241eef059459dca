namespace UtilityCss.Text

-- The white space of the Unicode standard. Blanks also take in the four information separators.
def isSpace (c : Char) : Bool :=
  let n := c.toNat
  (9 ≤ n && n ≤ 13) || n == 0x20 || n == 0x85 || n == 0xa0 || n == 0x1680 ||
    (0x2000 ≤ n && n ≤ 0x200a) || n == 0x2028 || n == 0x2029 || n == 0x202f || n == 0x205f ||
    n == 0x3000

def isBlank (c : Char) : Bool :=
  isSpace c || (0x1c ≤ c.toNat && c.toNat ≤ 0x1f)

theorem isBlank_of_isSpace (c : Char) (space : isSpace c = true) : isBlank c = true := by
  simp [isBlank, space]

def dropEnd (drop : Char → Bool) (cs : List Char) : List Char :=
  (cs.reverse.dropWhile drop).reverse

def stripped (drop : Char → Bool) (cs : List Char) : List Char :=
  dropEnd drop (cs.dropWhile drop)

def trim (s : String) : String := String.ofList (stripped isBlank s.toList)

def trimEnd (s : String) : String := String.ofList (dropEnd isBlank s.toList)

theorem toList_trim (s : String) : (trim s).toList = stripped isBlank s.toList := by
  simp [trim]

theorem toList_trimEnd (s : String) : (trimEnd s).toList = dropEnd isBlank s.toList := by
  simp [trimEnd]

end UtilityCss.Text
