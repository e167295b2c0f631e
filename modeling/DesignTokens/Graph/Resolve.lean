import DesignTokens.Graph.Basic

/-!
Following aliases to a concrete value. Every step goes on in the default mode of the collection of
the token it leads to. The walk ends: it stops when it comes to a token in a mode for the second
time, and only the modes of the tokens in the graph can be reached.
-/

namespace DesignTokens

inductive Record where
  | token
  | collection
  deriving DecidableEq

def Record.name : Record → String
  | token => "variable"
  | collection => "collection"

inductive ResolveError where
  | dangling (holder target : String) (missing : Record)
  | cycle (chain : List String)
  deriving DecidableEq

def ResolveError.message : ResolveError → String
  | dangling .. => "alias target missing from token graph"
  | cycle _ => "alias cycle detected"

def ResolveError.isMiss : ResolveError → Bool
  | dangling .. => true
  | cycle _ => false

namespace TokenGraph

def landings (g : TokenGraph) : List (String × String) :=
  g.tokens.values.filterMap fun v =>
    (g.collection? v.collection).map fun c => (v.id, c.defaultMode)

theorem mem_landings {g : TokenGraph} {id : String} {v : Variable} {c : Collection}
    (hv : g.token? id = some v) (hc : g.collection? v.collection = some c) :
    (v.id, c.defaultMode) ∈ g.landings :=
  List.mem_filterMap.2 ⟨v, List.mem_map.2 ⟨(id, v), mem_of_lookup? hv, rfl⟩, by simp [hc]⟩

theorem countP_notMem_lt {α : Type} [BEq α] [LawfulBEq α] {xs seen : List α} {x : α}
    (hx : x ∈ xs) (hs : x ∉ seen) :
    xs.countP (· ∉ seen ++ [x]) < xs.countP (· ∉ seen) := by
  induction xs with
  | nil => simp at hx
  | cons y ys ih =>
    have mono : ys.countP (· ∉ seen ++ [x]) ≤ ys.countP (· ∉ seen) :=
      List.countP_mono_left fun z _ h => by simp at h ⊢; exact h.1
    rw [List.countP_cons, List.countP_cons]
    rcases List.mem_cons.1 hx with rfl | hx
    · rw [if_neg (by simp), if_pos (by simpa using hs)]
      omega
    · have := ih hx
      by_cases hy : y ∈ seen ++ [x]
      · rw [if_neg (by simp only [decide_eq_true_eq]; exact fun h => h hy)]
        omega
      · rw [if_pos (by simpa using hy), if_pos (by simp at hy ⊢; exact hy.1)]
        omega

/-- Goes on from a token in a mode, which is the last of those `walked`. -/
def follow (g : TokenGraph) (v : Variable) (mode : String) (walked : List (String × String)) :
    Except ResolveError (Option Concrete) :=
  match v.value? mode with
  | none => .ok none
  | some (.concrete value) => .ok (some value)
  | some (.aliasOf id) =>
    match hv : g.token? id with
    | none => .error (.dangling v.id id .token)
    | some target =>
      match hc : g.collection? target.collection with
      | none => .error (.dangling v.id target.collection .collection)
      | some c =>
        if hs : (target.id, c.defaultMode) ∈ walked then
          .error (.cycle (walked.map Prod.fst ++ [target.id]))
        else
          have := countP_notMem_lt (mem_landings hv hc) hs
          follow g target c.defaultMode (walked ++ [(target.id, c.defaultMode)])
  termination_by g.landings.countP (· ∉ walked)
  decreasing_by assumption

/-- The concrete value of a token in a mode, `none` if a token on the way has no value there. -/
def resolve (g : TokenGraph) (v : Variable) (mode : String) :
    Except ResolveError (Option Concrete) :=
  g.follow v mode [(v.id, mode)]

end TokenGraph

end DesignTokens
