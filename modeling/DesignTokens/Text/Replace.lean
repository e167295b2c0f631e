namespace DesignTokens.Text

def contains (needle : List Char) : List Char → Bool
  | [] => needle.isEmpty
  | c :: rest => needle.isPrefixOf (c :: rest) || contains needle rest

def replaceAll (needle new : List Char) (s : List Char) : List Char :=
  match s with
  | [] => []
  | c :: rest =>
    if needle ≠ [] ∧ needle.isPrefixOf (c :: rest) then
      new ++ replaceAll needle new (rest.drop (needle.length - 1))
    else c :: replaceAll needle new rest
  termination_by s.length
  decreasing_by all_goals simp only [List.length_cons, List.length_drop]; omega

def substitute (old new s : String) : String :=
  .ofList (replaceAll old.toList new.toList s.toList)

end DesignTokens.Text
