import DesignTokens.Number.Notation
import DesignTokens.Text.DecimalDigit
import DesignTokens.Theme.Namespace
import DesignTokens.Theme.Section

/-!
Moving declarations into the namespaces of a theme: each rule claims declarations and says which
part of their names gives way to the stem of the namespace; modifiers turn bare numbers into
lengths.
-/

namespace DesignTokens

inductive LengthUnit where
  | none
  | px
  | rem
  | em
  | percent
  deriving DecidableEq

def LengthUnit.names : List (String × LengthUnit) :=
  [("none", none), ("px", px), ("rem", rem), ("em", em), ("percent", percent)]

def LengthUnit.suffix : LengthUnit → String
  | none => ""
  | px => "px"
  | rem => "rem"
  | em => "em"
  | percent => "%"

/-- Multiplies the number that a value begins with and gives it a unit. -/
structure Modifier where
  unit : LengthUnit
  factor : Float

def remPerPixel : Float := 1 / 16

/-- The number that a value begins with. A numeral in other than ASCII digits has no value. -/
def leadingNumber? (value : List Char) : Option Float := do
  let (numeral, _) ← Number.takeNumeral Text.isDecimalDigit (Text.trimStart value)
  return (← Number.Decimal.parse? numeral).toFloat

namespace Modifier

def apply (m : Modifier) (d : Declaration) : Declaration :=
  match leadingNumber? d.value.toList with
  | none => d
  | some x => d.setValue (Number.plain (x * m.factor) ++ m.unit.suffix.toList)

end Modifier

/-- Which declarations are claimed, and which part of their names is replaced. -/
structure Rule where
  select : Matcher
  strip : Matcher

def Rule.ofStem (stem : String) : Rule := ⟨.literal stem, .literal stem⟩

/-- A section of a theme: each declaration that a rule claims goes into each of the targets. -/
structure Mapping where
  name : String
  rules : List Rule
  targets : List Namespace
  modifiers : List Modifier

namespace Mapping

def modify (mapping : Mapping) (d : Declaration) : Declaration :=
  mapping.modifiers.foldl (fun d m => m.apply d) d

def spread (mapping : Mapping) (rule : Rule) (d : Declaration) : List Declaration :=
  mapping.targets.map fun target => mapping.modify (d.replaceStem rule.strip target.stem)

def run (mapping : Mapping) (pool : List Declaration) : Section × List Declaration :=
  let (shares, left) := claimAll (mapping.rules.map Rule.select) pool
  let items := (mapping.rules.zip shares).flatMap fun (rule, share) =>
    share.flatMap (mapping.spread rule)
  (⟨mapping.name, items⟩, left)

end Mapping

/-- For each declaration and target, a declaration in the target whose value is that of the
    first. -/
def pointers (ds : List Declaration) (strip : Matcher) (targets : List Namespace) :
    List Declaration :=
  ds.flatMap fun d => targets.map fun target =>
    (d.replaceStem strip target.stem).pointTo d.name.toList

end DesignTokens
