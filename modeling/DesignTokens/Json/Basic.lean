import DesignTokens.Json.Node
import DesignTokens.Json.Number
import DesignTokens.Keyed

/-!
JSON values. The fields of an object keep the order in which they first came; a field that comes
again replaces the value. A value nests at most 127 arrays and objects.
-/

namespace DesignTokens

inductive Json where
  | null
  | bool (value : Bool)
  | number (value : Json.Number)
  | string (text : String)
  | array (items : List Json)
  | object (fields : List (String × Json))

instance : Inhabited Json := ⟨.null⟩

namespace Json

mutual

def decEq : (a b : Json) → Decidable (a = b)
  | .null, .null => isTrue rfl
  | .bool a, .bool b =>
    if h : a = b then isTrue (by rw [h]) else isFalse fun e => h (Json.bool.inj e)
  | .number a, .number b =>
    if h : a = b then isTrue (by rw [h]) else isFalse fun e => h (Json.number.inj e)
  | .string a, .string b =>
    if h : a = b then isTrue (by rw [h]) else isFalse fun e => h (Json.string.inj e)
  | .array a, .array b =>
    match decEqItems a b with
    | isTrue h => isTrue (by rw [h])
    | isFalse h => isFalse fun e => h (Json.array.inj e)
  | .object a, .object b =>
    match decEqFields a b with
    | isTrue h => isTrue (by rw [h])
    | isFalse h => isFalse fun e => h (Json.object.inj e)
  | .null, .bool _ | .null, .number _ | .null, .string _ | .null, .array _ | .null, .object _
  | .bool _, .null | .bool _, .number _ | .bool _, .string _ | .bool _, .array _
  | .bool _, .object _ | .number _, .null | .number _, .bool _ | .number _, .string _
  | .number _, .array _ | .number _, .object _ | .string _, .null | .string _, .bool _
  | .string _, .number _ | .string _, .array _ | .string _, .object _ | .array _, .null
  | .array _, .bool _ | .array _, .number _ | .array _, .string _ | .array _, .object _
  | .object _, .null | .object _, .bool _ | .object _, .number _ | .object _, .string _
  | .object _, .array _ => isFalse nofun

def decEqItems : (a b : List Json) → Decidable (a = b)
  | [], [] => isTrue rfl
  | [], _ :: _ | _ :: _, [] => isFalse nofun
  | x :: a, y :: b =>
    match decEq x y, decEqItems a b with
    | isTrue h, isTrue h' => isTrue (by rw [h, h'])
    | isFalse h, _ => isFalse fun e => h (List.cons.inj e).1
    | _, isFalse h => isFalse fun e => h (List.cons.inj e).2

def decEqFields : (a b : List (String × Json)) → Decidable (a = b)
  | [], [] => isTrue rfl
  | [], _ :: _ | _ :: _, [] => isFalse nofun
  | (k, x) :: a, (l, y) :: b =>
    if hk : k = l then
      match decEq x y, decEqFields a b with
      | isTrue h, isTrue h' => isTrue (by rw [hk, h, h'])
      | isFalse h, _ => isFalse fun e => h (Prod.mk.inj (List.cons.inj e).1).2
      | _, isFalse h => isFalse fun e => h (List.cons.inj e).2
    else isFalse fun e => hk (Prod.mk.inj (List.cons.inj e).1).1

end

instance : DecidableEq Json := decEq

def maxDepth : Nat := 127

mutual

/-- The value of a tree with room for `room` more levels of arrays and objects. -/
def ofNode? : Nat → Node → Option Json
  | _, .null => some .null
  | _, .bool value => some (.bool value)
  | _, .number numeral => (Number.ofNumeral? numeral).map .number
  | _, .string text => text.map .string
  | 0, .array _ | 0, .object _ => none
  | room + 1, .array items => (ofItems? room items).map .array
  | room + 1, .object fields => (ofFields? room fields []).map .object

def ofItems? : Nat → List Node → Option (List Json)
  | _, [] => some []
  | room, item :: items => do
    let item ← ofNode? room item
    let items ← ofItems? room items
    return item :: items

def ofFields? : Nat → List (Option String × Node) → List (String × Json) →
    Option (List (String × Json))
  | _, [], entered => some entered
  | room, (key, value) :: fields, entered => do
    let key ← key
    let value ← ofNode? room value
    ofFields? room fields (putEntry key value entered)

end

def parse? (text : String) : Option Json := do ofNode? maxDepth (← Node.parse? text.toList)

def ofFloat (x : Float) : Json :=
  match Number.ofFloat? x with
  | some n => .number n
  | none => .null

end Json

end DesignTokens
