import DesignTokens.Sheet.Token

/-!
The statements of a stylesheet that declare custom properties. Comments go first. What is left falls
apart at semicolons and closing braces, quoted strings excepted, and each piece declares a property
from its first pair of dashes on that white space, an opening brace or nothing precedes. A quote
mark whose string does not end ends a piece as well; a string does not go on after a backslash at
the end of a line.
-/

namespace DesignTokens.Sheet

def closeString (quote : Char) (s : List Char) : Option (List Char × List Char) :=
  closeQuote (· ≠ '\n') quote s

/-- The text without its block comments. One that does not end reaches to the end of the text. -/
def withoutComments (s : List Char) : List Char :=
  match s with
  | [] => []
  | c :: rest =>
    if isQuote c then
      match h : closeString c rest with
      | none => c :: withoutComments rest
      | some (body, after) =>
        have : after.length ≤ rest.length := closeQuote_length h
        c :: body ++ withoutComments after
    else if c = '/' ∧ rest.head? = some '*' then
      match h : closeComment rest.tail with
      | none => []
      | some (_, after) =>
        have : after.length ≤ rest.length := closeComment_length h
        withoutComments after
    else c :: withoutComments rest
  termination_by s.length
  decreasing_by all_goals simp only [List.length_cons]; omega

def piece? (s : List Char) : List (List Char) := if s = [] then [] else [s]

def piecesFrom (before s : List Char) : List (List Char) :=
  match s with
  | [] => piece? before
  | c :: rest =>
    if isQuote c then
      match h : closeString c rest with
      | none => piece? before ++ piecesFrom [] rest
      | some (body, after) =>
        have : after.length ≤ rest.length := closeQuote_length h
        piecesFrom (before ++ c :: body) after
    else if c = ';' ∨ c = '\x7d' then piece? before ++ piecesFrom [] rest
    else piecesFrom (before ++ [c]) rest
  termination_by s.length
  decreasing_by all_goals simp only [List.length_cons]; omega

/-- A piece from its first pair of dashes on that opens a declaration. `opens` says whether one can
    be opened here. -/
def fromDashes? (opens : Bool) : List Char → Option (List Char)
  | [] => none
  | c :: rest =>
    if opens && c = '-' && rest.head? = some '-' then some (c :: rest)
    else fromDashes? (Text.isBlank c || c = '\x7b') rest

def candidates (s : List Char) : List (List Char) :=
  (piecesFrom [] (withoutComments s)).filterMap (fromDashes? true)

end DesignTokens.Sheet
