namespace DesignTokens

inductive Issue where
  | missing (name theme : String)
  | extra (name theme : String)
  deriving DecidableEq

def Issue.message : Issue → String
  | missing name theme => "Variable \"" ++ name ++ "\" is missing in theme \"" ++ theme ++ "\"."
  | extra name theme =>
    "Variable \"" ++ name ++ "\" in theme \"" ++ theme ++ "\" is not present in all themes."

inductive ThemeError where
  | malformed (text : String) (colons : Nat)
  | pattern (source : String)
  | mismatch (issues : List Issue)
  | unknownSection (name : String)
  deriving DecidableEq

def ThemeError.message : ThemeError → String
  | malformed .. => "malformed declaration"
  | pattern _ => "invalid prefix pattern"
  | mismatch issues =>
    "theme variants define different variables:\n" ++ "\n".intercalate (issues.map Issue.message)
  | unknownSection _ => "unknown source group"

end DesignTokens
