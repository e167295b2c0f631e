import DesignTokens.Sheet.Token
import DesignTokens.Text.Size

/-!
Laying a stylesheet out: one statement, selector, comment or closing brace a line, four spaces for
each brace open around it. White space outside strings and comments shrinks to single spaces;
strings and comments are copied as they stand.
-/

namespace DesignTokens.Sheet

structure Line where
  level : Nat
  text : List Char
  deriving DecidableEq

def indent (level : Nat) : List Char := List.replicate (4 * level) ' '

def Line.render (line : Line) : List Char := indent line.level ++ line.text ++ ['\n']

def renderLines (lines : List Line) : List Char := lines.flatMap Line.render

/-- What makes the braces, strings and comments of a text ill nested, and where: a brace without
    its partner, or the opening of a string or comment that never ends. -/
inductive LayoutError where
  | unbalanced (offset : Nat)
  | unterminatedString (offset : Nat)
  | unterminatedComment (offset : Nat)
  deriving DecidableEq

def line? (level : Nat) (text : List Char) : List Line :=
  let text := Text.trim text
  if text = [] then [] else [⟨level, text⟩]

def openingLine (level : Nat) (selector : List Char) : Line :=
  let selector := Text.trim selector
  ⟨level, if selector = [] then ['{'] else selector ++ [' ', '{']⟩

/-- Adds white space to a pending line: one space, and none where the line starts or has one. -/
def addBlank (pending : List Char) : List Char :=
  if pending = [] ∨ pending.getLast? = some ' ' then pending else pending ++ [' ']

def emit (lines : List Line) (rest : Except LayoutError (List Line)) :
    Except LayoutError (List Line) :=
  rest.map (lines ++ ·)

/-- The lines of a text of `total` bytes, from its tokens at `offset` on, with `level` braces open
    and the text `pending` on the current line. -/
def layout (total : Nat) (ending : Ending) (level offset : Nat) (pending : List Char) :
    List Token → Except LayoutError (List Line)
  | [] =>
    match ending with
    | .openQuote left => .error (.unterminatedString (total - Text.byteSize left))
    | .openComment left => .error (.unterminatedComment (total - Text.byteSize left))
    | .closed => if level = 0 then .ok (line? 0 pending) else .error (.unbalanced total)
  | token :: tokens =>
    let next := offset + Text.byteSize token.text
    match token with
    | .quoted text => layout total ending level next (pending ++ text) tokens
    | .comment text =>
      if pending = [] then emit (line? level text) (layout total ending level next [] tokens)
      else layout total ending level next (pending ++ text) tokens
    | .lineComment text => emit (line? level text) (layout total ending level next [] tokens)
    | .char '{' =>
      emit [openingLine level pending] (layout total ending (level + 1) next [] tokens)
    | .char '}' =>
      match level with
      | 0 => .error (.unbalanced offset)
      | level + 1 =>
        emit (line? (level + 1) pending ++ [⟨level, ['}']⟩])
          (layout total ending level next [] tokens)
    | .char ';' =>
      emit (line? level (pending ++ [';'])) (layout total ending level next [] tokens)
    | .char c =>
      layout total ending level next
        (if Text.isBlank c then addBlank pending else pending ++ [c]) tokens

/-- The text laid out. Line comments are known to the dialect where `lineComments` says so. -/
def tidy (lineComments : Bool) (text : List Char) : Except LayoutError (List Char) :=
  let (tokens, ending) := scan lineComments true text
  (layout (Text.byteSize text) ending 0 0 [] tokens).map renderLines

end DesignTokens.Sheet
