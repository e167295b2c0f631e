import DesignTokens.Graph.Resolve
import Mathlib.Data.List.Nodup

/-!
Walks along aliases. A spot is a token in the mode in which it is read. What a spot comes to is
given by rules that do not look back at where the walk has been, so that they say nothing of walks
without an end.
-/

namespace DesignTokens

/-- A token in the mode in which it is read. -/
@[ext]
structure Spot where
  token : Variable
  mode : String
  deriving DecidableEq

namespace Spot

/-- By this a walk knows a spot again. -/
def key (s : Spot) : String × String := (s.token.id, s.mode)

def next? (g : TokenGraph) (s : Spot) : Option Spot :=
  match s.token.value? s.mode with
  | some (.aliasOf id) =>
    (g.token? id).bind fun target =>
      (g.collection? target.collection).map fun c => ⟨target, c.defaultMode⟩
  | _ => none

def after? (g : TokenGraph) (s : Spot) : Nat → Option Spot
  | 0 => some s
  | n + 1 => (s.after? g n).bind (next? g)

/-- What a spot comes to: its own value, or what the alias at it leads to. An alias without a token
    is an error before one without a collection is. -/
inductive Yields (g : TokenGraph) : Spot → Except ResolveError (Option Concrete) → Prop
  | absent {s : Spot} (value : s.token.value? s.mode = none) : Yields g s (.ok none)
  | concrete {s : Spot} {x : Concrete} (value : s.token.value? s.mode = some (.concrete x)) :
    Yields g s (.ok (some x))
  | noToken {s : Spot} {id : String} (value : s.token.value? s.mode = some (.aliasOf id))
    (missing : g.token? id = none) : Yields g s (.error (.dangling s.token.id id .token))
  | noCollection {s : Spot} {id : String} {target : Variable}
    (value : s.token.value? s.mode = some (.aliasOf id)) (found : g.token? id = some target)
    (missing : g.collection? target.collection = none) :
    Yields g s (.error (.dangling s.token.id target.collection .collection))
  | further {s : Spot} {id : String} {target : Variable} {c : Collection}
    {r : Except ResolveError (Option Concrete)}
    (value : s.token.value? s.mode = some (.aliasOf id)) (found : g.token? id = some target)
    (owner : g.collection? target.collection = some c)
    (rest : Yields g ⟨target, c.defaultMode⟩ r) : Yields g s r

/-- The aliases from a spot on never come to an end. -/
def Endless (g : TokenGraph) (s : Spot) : Prop := ∀ n, (s.after? g n).isSome

def Trail (g : TokenGraph) (s : Spot) (spots : List Spot) : Prop :=
  ∀ i < spots.length, s.after? g i = spots[i]?

/-- The tokens of a walk up to the first spot that it knows again. -/
def Lap (g : TokenGraph) (s : Spot) (chain : List String) : Prop :=
  ∃ spots last, Trail g s (spots ++ [last]) ∧ (spots.map key).Nodup ∧ last.key ∈ spots.map key ∧
    chain = (spots ++ [last]).map (·.token.id)

variable {g : TokenGraph} {s t : Spot}

theorem next?_eq_some (h : s.next? g = some t) :
    ∃ id c, s.token.value? s.mode = some (.aliasOf id) ∧ g.token? id = some t.token ∧
      g.collection? t.token.collection = some c ∧ t.mode = c.defaultMode := by
  unfold next? at h
  split at h
  · rename_i id value
    obtain ⟨target, found, h⟩ := Option.bind_eq_some_iff.1 h
    obtain ⟨c, owner, rfl⟩ := Option.map_eq_some_iff.1 h
    exact ⟨id, c, value, found, owner, rfl⟩
  · cases h

theorem Yields.of_next? {r : Except ResolveError (Option Concrete)} (h : s.next? g = some t)
    (rest : Yields g t r) : Yields g s r := by
  obtain ⟨id, c, value, found, owner, mode⟩ := next?_eq_some h
  refine .further value found owner ?_
  rw [← mode]
  exact rest

theorem Yields.not_cycle {r : Except ResolveError (Option Concrete)} (h : Yields g s r)
    (chain : List String) : r ≠ .error (.cycle chain) := by
  induction h with
  | absent | concrete | noToken | noCollection => intro h; cases h
  | further _ _ _ _ ih => exact ih

theorem Yields.unique {r r' : Except ResolveError (Option Concrete)} (h : Yields g s r)
    (h' : Yields g s r') : r = r' := by
  induction h with
  | absent value => cases h' <;> simp_all
  | concrete value => cases h' <;> simp_all
  | noToken value missing => cases h' <;> simp_all
  | noCollection value found missing => cases h' <;> simp_all
  | further value found owner _ ih =>
    cases h' with
    | absent value' => simp_all
    | concrete value' => simp_all
    | noToken value' missing => simp_all
    | noCollection value' found' missing => simp_all
    | further value' found' owner' rest =>
      apply ih
      simp_all

theorem after?_succ (h : s.next? g = some t) (n : Nat) : s.after? g (n + 1) = t.after? g n := by
  induction n with
  | zero => simpa [after?] using h
  | succ n ih => rw [after?, ih, after?]

theorem Endless.next (endless : Endless g s) : ∃ t, s.next? g = some t ∧ Endless g t := by
  obtain ⟨t, h⟩ := Option.isSome_iff_exists.1 (endless 1)
  have step : s.next? g = some t := by simpa [after?] using h
  refine ⟨t, step, fun n => ?_⟩
  rw [← after?_succ step]
  exact endless (n + 1)

theorem Yields.not_endless {r : Except ResolveError (Option Concrete)} (h : Yields g s r) :
    ¬Endless g s := by
  induction h with
  | further value found owner _ ih =>
    intro endless
    obtain ⟨t, step, rest⟩ := endless.next
    simp only [next?, value, found, owner, Option.bind_some, Option.map_some,
      Option.some.injEq] at step
    exact ih (step ▸ rest)
  | _ =>
    intro endless
    obtain ⟨t, step, -⟩ := endless.next
    simp_all [next?]

theorem trail_start (g : TokenGraph) (s : Spot) : Trail g s [s] := by
  intro i h
  have : i = 0 := by simpa using h
  subst this
  rfl

theorem Trail.extend {spots : List Spot} {last : Spot} (trail : Trail g s (spots ++ [last]))
    (step : last.next? g = some t) : Trail g s (spots ++ [last] ++ [t]) := by
  intro i h
  simp only [List.length_append, List.length_cons, List.length_nil] at h
  rcases Nat.lt_or_ge i (spots.length + 1) with inside | atEnd
  · rw [List.getElem?_append_left (by simpa using inside)]
    exact trail i (by simpa using inside)
  · have : i = spots.length + 1 := by omega
    subst this
    have here : s.after? g spots.length = some last := by
      simpa using trail spots.length (by simp)
    simp [after?, here, step]

theorem Trail.agree {spots others : List Spot} (trail : Trail g s spots) (trail' : Trail g s others)
    {i : Nat} (h : i < spots.length) (h' : i < others.length) : spots[i] = others[i] := by
  have here := trail i h
  have there := trail' i h'
  rw [here] at there
  simpa [h, h'] using there

theorem Trail.length_le {spots others : List Spot} {last : Spot}
    (trail : Trail g s (spots ++ [last])) (known : last.key ∈ spots.map key)
    (trail' : Trail g s others) (distinct : (others.map key).Nodup) :
    others.length ≤ spots.length := by
  by_contra longer
  obtain ⟨earlier, inside, same⟩ := List.mem_map.1 known
  obtain ⟨i, bound, rfl⟩ := List.getElem_of_mem inside
  have atLast : last = others[spots.length] := by
    have := trail.agree trail' (show spots.length < (spots ++ [last]).length by simp) (by omega)
    simpa using this
  have atEarlier : spots[i] = others[i] := by
    have := trail.agree trail' (show i < (spots ++ [last]).length by simp; omega) (by omega)
    simpa [List.getElem_append_left bound] using this
  rw [atLast, atEarlier] at same
  have : i = spots.length := by
    have inFront : i < (others.map key).length := by
      simp
      omega
    have behind : spots.length < (others.map key).length := by
      simp
      omega
    have keys : (others.map key)[i] = (others.map key)[spots.length] := by simpa using same
    exact distinct.getElem_inj_iff.1 keys
  omega

theorem Lap.unique {chain chain' : List String} (lap : Lap g s chain) (lap' : Lap g s chain') :
    chain = chain' := by
  obtain ⟨spots, last, trail, distinct, known, rfl⟩ := lap
  obtain ⟨spots', last', trail', distinct', known', rfl⟩ := lap'
  have init : ∀ {spots last}, Trail g s (spots ++ [last]) → Trail g s spots := by
    intro spots last trail i h
    rw [trail i (by simp; omega), List.getElem?_append_left h]
  have le := trail.length_le known (init trail') distinct'
  have ge := trail'.length_le known' (init trail) distinct
  have lengths : (spots ++ [last]).length = (spots' ++ [last']).length := by
    simp
    omega
  rw [List.ext_getElem lengths fun i h h' => trail.agree trail' h h']

end Spot

end DesignTokens
