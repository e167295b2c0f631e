import DesignTokens.Graph.Value

/-!
Graphs of design tokens. A collection has modes and lists its members; a variable has a value for
each mode. Collections and variables keep their order, and so do fields that have no meaning here.
-/

namespace DesignTokens

structure Mode where
  id : String
  name : String
  deriving DecidableEq

structure Collection where
  id : String
  name : String
  modes : List Mode
  defaultMode : String
  remote : Bool
  members : List String
  extra : Keyed Json
  deriving DecidableEq

structure Variable where
  id : String
  name : String
  collection : String
  values : Keyed (Option TokenValue)
  remote : Bool
  extra : Keyed Json
  deriving DecidableEq

structure TokenGraph where
  collections : Keyed Collection
  tokens : Keyed Variable
  deriving DecidableEq

namespace Collection

def hasModes (c : Collection) : Bool := 1 < c.modes.length

def mode? (c : Collection) (id : String) : Option Mode := c.modes.find? (·.id = id)

def isDefault (c : Collection) (id : String) : Bool := c.defaultMode = id

end Collection

def Variable.value? (v : Variable) (mode : String) : Option TokenValue := (v.values.get? mode).join

namespace TokenGraph

def empty : TokenGraph := ⟨.empty, .empty⟩

def collection? (g : TokenGraph) (id : String) : Option Collection := g.collections.get? id

def token? (g : TokenGraph) (id : String) : Option Variable := g.tokens.get? id

/-- Both maps are keyed by the identifiers that the records themselves hold. -/
def KeyedById (g : TokenGraph) : Prop :=
  (∀ entry ∈ g.collections.entries, entry.1 = entry.2.id) ∧
    ∀ entry ∈ g.tokens.entries, entry.1 = entry.2.id

/-- The graph without what comes from linked libraries: remote collections, remote variables, and
    the variables of the collections left out. -/
def withoutRemote (g : TokenGraph) : TokenGraph :=
  let removed := (g.collections.values.filter (·.remote)).map (·.id)
  { collections := g.collections.filter fun _ c => !c.remote
    tokens := g.tokens.filter fun _ v => !v.remote && !removed.contains v.collection }

end TokenGraph

end DesignTokens
