import DesignTokens.Graph.Basic
import DesignTokens.Json.Render

/-!
Reading and writing token graphs as JSON. A field of a record may come once; fields without a
meaning are skipped in graphs and modes and kept in collections and variables. Graphs, modes and
responses may also be arrays of their fields.
-/

namespace DesignTokens.Json

/-- Reads a tree with room for a number of levels of arrays and objects. -/
abbrev Reader (α : Type) := Nat → Node → Option α

def fields? : Reader (Nat × List (String × Node))
  | room + 1, .object fields =>
    (fields.mapM fun (field : Option String × Node) => field.1.map (·, field.2)).map (room, ·)
  | _, _ => none

def items? : Reader (Nat × List Node)
  | room + 1, .array items => some (room, items)
  | _, _ => none

def text? : Reader String
  | _, .string text => text
  | _, _ => none

def flag? : Reader Bool
  | _, .bool flag => some flag
  | _, _ => none

def nullable? {α : Type} (read : Reader α) : Reader (Option α)
  | _, .null => some none
  | room, node => (read room node).map some

def list? {α : Type} (read : Reader α) : Reader (List α) := fun room node => do
  let (room, items) ← items? room node
  items.mapM (read room)

def keyed? {α : Type} (read : Reader α) : Reader (Keyed α) := fun room node => do
  let (room, fields) ← fields? room node
  let entries ← fields.mapM fun (key, value) => (read room value).map (key, ·)
  return .ofList entries

def single? (name : String) (fields : List (String × Node)) : Option (Option Node) :=
  match fields.filter (·.1 = name) with
  | [] => some none
  | [(_, value)] => some (some value)
  | _ => none

def required? {α : Type} (read : Reader α) (room : Nat) (name : String)
    (fields : List (String × Node)) : Option α := do
  read room (← (← single? name fields))

def optional? {α : Type} (read : Reader α) (default : α) (room : Nat) (name : String)
    (fields : List (String × Node)) : Option α := do
  match ← single? name fields with
  | none => return default
  | some value => read room value

def optionalAt? {α : Type} (read : Reader α) (default : α) (room i : Nat) (items : List Node) :
    Option α :=
  match items[i]? with
  | none => some default
  | some value => read room value

def extra? (known : List String) (room : Nat) (fields : List (String × Node)) :
    Option (Keyed Json) := do
  let entries ← (fields.filter fun field => !known.contains field.1).mapM
    fun (key, value) => (ofNode? room value).map (key, ·)
  return .ofList entries

def word? : Reader Nat
  | _, .number numeral =>
    match Number.ofNumeral? numeral with
    | some (.whole n _) => if 0 ≤ n ∧ n < 0x10000 then some n.toNat else none
    | _ => none
  | _, _ => none

end DesignTokens.Json

namespace DesignTokens

open Json

def Mode.read? : Reader Mode := fun room node =>
  match node with
  | .array _ => do
    let (room, items) ← items? room node
    match items with
    | [id, name] => return ⟨← text? room id, ← text? room name⟩
    | _ => none
  | _ => do
    let (room, fields) ← fields? room node
    return ⟨← required? text? room "modeId" fields, ← required? text? room "name" fields⟩

def Collection.known : List String :=
  ["id", "name", "modes", "defaultModeId", "remote", "variableIds"]

def Collection.read? : Reader Collection := fun room node => do
  let (room, fields) ← fields? room node
  return {
    id := ← required? text? room "id" fields
    name := ← required? text? room "name" fields
    modes := ← optional? (list? Mode.read?) [] room "modes" fields
    defaultMode := ← required? text? room "defaultModeId" fields
    remote := ← optional? flag? false room "remote" fields
    members := ← optional? (list? text?) [] room "variableIds" fields
    extra := ← extra? known room fields }

def TokenValue.read? : Reader TokenValue := fun room node =>
  (Json.ofNode? room node).map TokenValue.ofJson

def Variable.known : List String :=
  ["id", "name", "variableCollectionId", "valuesByMode", "remote"]

def Variable.read? : Reader Variable := fun room node => do
  let (room, fields) ← fields? room node
  return {
    id := ← required? text? room "id" fields
    name := ← required? text? room "name" fields
    collection := ← required? text? room "variableCollectionId" fields
    values := ← optional? (keyed? (nullable? TokenValue.read?)) .empty room "valuesByMode" fields
    remote := ← optional? flag? false room "remote" fields
    extra := ← extra? known room fields }

namespace TokenGraph

def read? : Reader TokenGraph := fun room node =>
  match node with
  | .array _ => do
    let (room, items) ← items? room node
    if 2 < items.length then none
    else return ⟨← optionalAt? (keyed? Collection.read?) .empty room 0 items,
      ← optionalAt? (keyed? Variable.read?) .empty room 1 items⟩
  | _ => do
    let (room, fields) ← fields? room node
    return ⟨← optional? (keyed? Collection.read?) .empty room "variableCollections" fields,
      ← optional? (keyed? Variable.read?) .empty room "variables" fields⟩

def parse? (text : String) : Option TokenGraph := do
  read? Json.maxDepth (← Node.parse? text.toList)

end TokenGraph

structure Response where
  status : Option Nat
  failed : Bool
  message : Option String
  graph : TokenGraph

namespace Response

def read? : Reader Response := fun room node =>
  match node with
  | .array _ => do
    let (room, items) ← items? room node
    if 4 < items.length then none
    else return ⟨← optionalAt? (nullable? word?) none room 0 items,
      ← optionalAt? flag? false room 1 items, ← optionalAt? (nullable? text?) none room 2 items,
      ← optionalAt? TokenGraph.read? .empty room 3 items⟩
  | _ => do
    let (room, fields) ← fields? room node
    return ⟨← optional? (nullable? word?) none room "status" fields,
      ← optional? flag? false room "error" fields,
      ← optional? (nullable? text?) none room "message" fields,
      ← optional? TokenGraph.read? .empty room "meta" fields⟩

def parse? (text : String) : Option Response := do
  read? Json.maxDepth (← Node.parse? text.toList)

def isSuccess (r : Response) : Bool := r.status = some 200 && !r.failed

end Response

def Mode.toJson (m : Mode) : Json := .object [("modeId", .string m.id), ("name", .string m.name)]

def Collection.toJson (c : Collection) : Json :=
  .object
    ([("id", .string c.id), ("name", .string c.name), ("modes", .array (c.modes.map Mode.toJson)),
      ("defaultModeId", .string c.defaultMode), ("remote", .bool c.remote),
      ("variableIds", .array (c.members.map .string))] ++ c.extra.entries)

def valueToJson : Option TokenValue → Json
  | none => .null
  | some value => value.toJson

def Variable.toJson (v : Variable) : Json :=
  .object
    ([("id", .string v.id), ("name", .string v.name),
      ("variableCollectionId", .string v.collection),
      ("valuesByMode",
        .object (v.values.entries.map fun (mode, value) => (mode, valueToJson value))),
      ("remote", .bool v.remote)] ++ v.extra.entries)

def TokenGraph.toJson (g : TokenGraph) : Json :=
  .object
    [("variableCollections", .object (g.collections.entries.map fun (id, c) => (id, c.toJson))),
     ("variables", .object (g.tokens.entries.map fun (id, v) => (id, v.toJson)))]

end DesignTokens
