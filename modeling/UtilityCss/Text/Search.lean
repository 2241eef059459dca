namespace UtilityCss.Text

def beginsWith (lead s : String) : Bool := lead.toList.isPrefixOf s.toList

def beginsWithAny (leads : List String) (s : String) : Bool := leads.any (beginsWith · s)

def occursIn (needle : List Char) : List Char → Bool
  | [] => needle.isEmpty
  | c :: rest => needle.isPrefixOf (c :: rest) || occursIn needle rest

def contains (needle s : String) : Bool := occursIn needle.toList s.toList

theorem beginsWith_append (lead s : String) : beginsWith lead (lead ++ s) = true := by
  simp [beginsWith]

theorem beginsWith_extended (lead s t : String) (begins : beginsWith lead s = true) :
    beginsWith lead (s ++ t) = true := by
  simp only [beginsWith, List.isPrefixOf_iff_prefix, String.toList_append] at begins ⊢
  exact begins.trans (List.prefix_append _ _)

theorem beginsWith_either (lead s t : String) (begins : beginsWith lead (s ++ t) = true) :
    beginsWith lead s = true ∨ beginsWith s lead = true := by
  simp only [beginsWith, List.isPrefixOf_iff_prefix, String.toList_append] at begins ⊢
  exact List.prefix_or_prefix_of_prefix begins (List.prefix_append _ _)

end UtilityCss.Text
