import DesignTokens.Number.Decimal
import DesignTokens.Text.Blank
import DesignTokens.Text.Capital

/-!
Names of style properties. The words of a display name are its runs of ASCII letters and digits;
everything else separates them.
-/

namespace DesignTokens.Naming

def isWordPart (c : Char) : Bool := c.isAlphanum

/-- The words of a name. `word` is the one that is being read. -/
def wordsFrom (word : List Char) : List Char → List (List Char)
  | [] => if word = [] then [] else [word]
  | c :: rest =>
    if isWordPart c then wordsFrom (word ++ [c]) rest
    else if word = [] then wordsFrom [] rest
    else word :: wordsFrom [] rest

def words (name : String) : List (List Char) := wordsFrom [] name.toList

def kebab (name : String) : String :=
  .ofList (List.intercalate ['-'] ((words name).map Text.lower))

def camel (name : String) : String :=
  .ofList
    (match words name with
    | [] => []
    | first :: rest => Text.lower first ++ rest.flatMap Text.capitalize)

def capitalize (name : String) : String := .ofList (Text.capitalize name.toList)

/-- A name that reads as a number, or is blank, names no variable. -/
def isNumeric (name : String) : Bool :=
  let trimmed := Text.trim name.toList
  trimmed.isEmpty || (Number.ofText? trimmed).any fun x => !x.isNaN

end DesignTokens.Naming
