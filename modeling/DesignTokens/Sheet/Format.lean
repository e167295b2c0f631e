import DesignTokens.Artifact
import DesignTokens.Json.Render
import DesignTokens.Sheet.Line

namespace DesignTokens.Sheet

inductive FormatError where
  | layout (cause : LayoutError)
  | json
  deriving DecidableEq

def FormatError.message : FormatError → String
  | layout (.unbalanced _) => "unbalanced braces"
  | layout (.unterminatedString _) => "unterminated string"
  | layout (.unterminatedComment _) => "unterminated comment"
  | json => "invalid json"

def format (dialect : Dialect) (text : String) : Except FormatError String :=
  match dialect with
  | .json =>
    match Json.parse? text with
    | none => .error .json
    | some value => .ok (value.pretty ++ "\n")
  | .css | .scss =>
    match tidy (dialect = .scss) text.toList with
    | .error cause => .error (.layout cause)
    | .ok out => .ok (.ofList out)

end DesignTokens.Sheet
