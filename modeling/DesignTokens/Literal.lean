import DesignTokens.Graph.Value

/-!
Concrete values as a stylesheet writes them. Channels are scaled to 255 and rounded, a half going
up; text stands in quote marks as it is. A value of another shape has no literal.
-/

namespace DesignTokens

inductive Target where
  | css
  | scss
  deriving DecidableEq

namespace Literal

def channel (fraction : Float) : List Char := Number.plain (Number.roundHalfAway (fraction * 255))

/-- Custom properties separate channels by spaces and write the opacity only if it is known. -/
def cssColor (c : Color) : List Char :=
  "rgb(".toList ++ channel c.red ++ ' ' :: channel c.green ++ ' ' :: channel c.blue ++
    (match c.alpha with
    | none => []
    | some alpha => " / ".toList ++ Number.plain alpha) ++ [')']

/-- Variables separate channels by commas; an opacity that is not known is full. -/
def scssColor (c : Color) : List Char :=
  "rgba(".toList ++ channel c.red ++ ", ".toList ++ channel c.green ++ ", ".toList ++
    channel c.blue ++ ", ".toList ++ Number.plain (c.alpha.getD 1) ++ [')']

def quoteMark : Target → Char
  | .css => '\''
  | .scss => '"'

def chars? (target : Target) : Concrete → Option (List Char)
  | .text s => some (quoteMark target :: s.toList ++ [quoteMark target])
  | .number x => some (Number.literal x)
  | .boolean b => some (if b then "true".toList else "false".toList)
  | .color c => some (match target with | .css => cssColor c | .scss => scssColor c)
  | .unsupported _ => none

end Literal

def Concrete.literal? (value : Concrete) (target : Target) : Option String :=
  (Literal.chars? target value).map .ofList

end DesignTokens
