import DesignTokens.Json.Basic

/-!
The value a design token has in one mode: another token it stands for, or a concrete value. Objects
are told apart by shape, an alias before a colour; what is neither text, number, flag nor colour is
kept as it came.
-/

namespace DesignTokens

structure Color where
  red : Float
  green : Float
  blue : Float
  alpha : Option Float
  deriving DecidableEq

inductive Concrete where
  | text (text : String)
  | number (number : Float)
  | boolean (flag : Bool)
  | color (color : Color)
  | unsupported (raw : Json)
  deriving DecidableEq

inductive TokenValue where
  | aliasOf (target : String)
  | concrete (value : Concrete)
  deriving DecidableEq

def Concrete.kind : Concrete → String
  | text _ => "string"
  | number _ => "number"
  | boolean _ => "boolean"
  | color _ => "color"
  | unsupported _ => "unsupported"

namespace TokenValue

def aliasType : String := "VARIABLE_ALIAS"

def aliased? (fields : List (String × Json)) : Option String :=
  match lookup? "type" fields, lookup? "id" fields with
  | some (.string kind), some (.string id) => if kind = aliasType then some id else none
  | _, _ => none

def number? : Json → Option Float
  | .number n => some n.toFloat
  | _ => none

def isFraction (x : Float) : Bool := 0 ≤ x && x ≤ 1

def channel? (name : String) (fields : List (String × Json)) : Option Float :=
  ((lookup? name fields).bind number?).filter isFraction

/-- A colour has its three channels; an opacity that is there must be a number, of any size. -/
def color? (fields : List (String × Json)) : Option Color := do
  let alpha ←
    match lookup? "a" fields with
    | none => some none
    | some value => (number? value).map some
  return ⟨← channel? "r" fields, ← channel? "g" fields, ← channel? "b" fields, alpha⟩

def ofJson (value : Json) : TokenValue :=
  match value with
  | .string text => .concrete (.text text)
  | .number n => .concrete (.number n.toFloat)
  | .bool flag => .concrete (.boolean flag)
  | .object fields =>
    match aliased? fields, color? fields with
    | some id, _ => .aliasOf id
    | none, some color => .concrete (.color color)
    | none, none => .concrete (.unsupported value)
  | .null | .array _ => .concrete (.unsupported value)

end TokenValue

def Color.toJson (c : Color) : Json :=
  .object
    ([("r", .ofFloat c.red), ("g", .ofFloat c.green), ("b", .ofFloat c.blue)] ++
      (c.alpha.map fun a => ("a", Json.ofFloat a)).toList)

def Concrete.toJson : Concrete → Json
  | text s => .string s
  | number x => .ofFloat x
  | boolean b => .bool b
  | color c => c.toJson
  | unsupported raw => raw

def TokenValue.toJson : TokenValue → Json
  | aliasOf id => .object [("type", .string aliasType), ("id", .string id)]
  | concrete value => value.toJson

end DesignTokens
