import DesignTokens.Text.Blank
import DesignTokens.Text.LowerCase

namespace DesignTokens

inductive LogFormat where
  | json
  | pretty
  deriving DecidableEq

namespace LogFormat

def name : LogFormat → String
  | json => "json"
  | pretty => "pretty"

def parse? (value : String) : Option LogFormat :=
  let word := String.ofList (Text.lower (Text.trim value.toList))
  if word = "json" then some json
  else if word = "pretty" ∨ word = "text" then some pretty
  else none

def unknownMessage : String := "unknown log format"

end LogFormat

end DesignTokens
