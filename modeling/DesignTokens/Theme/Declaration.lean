import DesignTokens.Sheet.Statement
import DesignTokens.Theme.Error
import DesignTokens.Theme.Matcher

/-!
Declarations of custom properties. Names begin with two dashes, and neither names nor values have
white space around them; a value keeps no semicolon at its end.
-/

namespace DesignTokens

structure Declaration where
  name : String
  value : String
  deriving DecidableEq

namespace Declaration

def dropDashes (s : List Char) : List Char := s.dropWhile (· = '-')

/-- The name that a text stands for: two dashes, whatever dashes it had. -/
def normalName (s : List Char) : List Char :=
  '-' :: '-' :: Text.trim (dropDashes (Text.trim s))

def dropSemicolon (s : List Char) : List Char := if s.getLast? = some ';' then s.dropLast else s

def normalValue (s : List Char) : List Char := Text.trim (dropSemicolon (Text.trim s))

def make (name value : List Char) : Declaration :=
  ⟨.ofList (normalName name), .ofList (normalValue value)⟩

def parse (s : List Char) : Except ThemeError Declaration :=
  if s.count ':' = 1 then .ok (make (s.takeWhile (· ≠ ':')) ((s.dropWhile (· ≠ ':')).drop 1))
  else .error (.malformed (.ofList (Text.trim s)) (s.count ':'))

/-- All custom properties that a stylesheet declares, or the first text that should declare one and
    does not. -/
def ofSheet (text : String) : Except ThemeError (List Declaration) :=
  (Sheet.candidates text.toList).mapM fun s => parse (Text.trim s)

def rename (d : Declaration) (name : List Char) : Declaration :=
  { d with name := .ofList (normalName name) }

def setValue (d : Declaration) (value : List Char) : Declaration :=
  { d with value := .ofList (normalValue value) }

def pointTo (d : Declaration) (name : List Char) : Declaration :=
  { d with value := "var(" ++ .ofList (normalName name) ++ ")" }

def isSelectedBy (d : Declaration) (m : Matcher) : Bool := m.selects d.name.toList

def addStem (d : Declaration) (stem : List Char) : Declaration :=
  if Text.trim stem = [] then d
  else
    match dropDashes d.name.toList with
    | [] => d.rename stem
    | rest => d.rename (stem ++ '-' :: rest)

def removeStem (d : Declaration) (m : Matcher) : Declaration :=
  let rest := m.strip d.name.toList
  if rest.length = d.name.length then d else d.rename rest

def replaceStem (d : Declaration) (m : Matcher) (stem : String) : Declaration :=
  (d.removeStem m).addStem stem.toList

def render (d : Declaration) : String := d.name ++ ": " ++ d.value ++ ";"

end Declaration

def renderLines (ds : List Declaration) : String := "\n".intercalate (ds.map Declaration.render)

end DesignTokens
