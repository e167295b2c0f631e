import DesignTokens.Pattern.Parse
import DesignTokens.Pattern.Program

/-!
Choosing properties by their names. A matcher selects a name, and says what of it is left after the
part at its front that matches. A pattern selects a name wherever it is found; at the front it
counts only if it is found there first.
-/

namespace DesignTokens

inductive Matcher where
  | literal (text : String)
  | pattern (source : String) (regex : Regex)
  | oneOf (choices : List Matcher)

namespace Matcher

def ofPattern? (source : String) : Option Matcher :=
  (Regex.parse? source).map (pattern source)

def afterText? (text : List Char) (name : List Char) : Option (List Char) :=
  if text = [] then none
  else if text.isPrefixOf name then some (name.drop text.length)
  else none

mutual

def selects : Matcher → List Char → Bool
  | literal text, name => (afterText? text.toList name).isSome
  | pattern _ regex, name => regex.isMatch name
  | oneOf choices, name => anySelects choices name

def anySelects : List Matcher → List Char → Bool
  | [], _ => false
  | m :: ms, name => m.selects name || anySelects ms name

end

mutual

/-- What is left of a name after the part at its front that matches, if there is one. -/
def rest? : Matcher → List Char → Option (List Char)
  | literal text, name => afterText? text.toList name
  | pattern _ regex, name => regex.leading? name
  | oneOf choices, name => firstRest? choices name

def firstRest? : List Matcher → List Char → Option (List Char)
  | [], _ => none
  | m :: ms, name =>
    match m.rest? name with
    | some rest => some rest
    | none => firstRest? ms name

end

def strip (m : Matcher) (name : List Char) : List Char := (m.rest? name).getD name

end Matcher

end DesignTokens
