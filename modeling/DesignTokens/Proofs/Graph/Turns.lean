import DesignTokens.Proofs.Graph.Walk
import Mathlib.Data.List.Perm.Subperm

/-!
How long resolving takes. It goes in turns: each looks at one spot and ends the walk or leads it on.
Behind its start a walk meets tokens in the modes of their collections only, one for each token of
the graph, whatever identifiers the tokens have.
-/

namespace DesignTokens

structure Turn where
  spot : Spot
  met : List (String × String)

namespace Turn

def step (g : TokenGraph) (t : Turn) : Except ResolveError (Option Concrete) ⊕ Turn :=
  let v := t.spot.token
  if t.met.contains t.spot.key then .inl (.error (.cycle (t.met.map Prod.fst ++ [v.id])))
  else
    match v.value? t.spot.mode with
    | none => .inl (.ok none)
    | some (.concrete value) => .inl (.ok (some value))
    | some (.aliasOf id) =>
      match g.token? id with
      | none => .inl (.error (.dangling v.id id .token))
      | some target =>
        match g.collection? target.collection with
        | none => .inl (.error (.dangling v.id target.collection .collection))
        | some c => .inr ⟨⟨target, c.defaultMode⟩, t.met ++ [t.spot.key]⟩

/-- How a walk ends, if it does in at most so many turns. -/
def run (g : TokenGraph) : Nat → Turn → Option (Except ResolveError (Option Concrete))
  | 0, _ => none
  | n + 1, t =>
    match t.step g with
    | .inl result => some result
    | .inr next => run g n next

end Turn

namespace TokenGraph

structure Walked (g : TokenGraph) (walked : List (String × String)) : Prop where
  distinct : walked.Nodup
  landed : ∀ spot ∈ walked.tail, spot ∈ g.landings

variable {g : TokenGraph} {walked : List (String × String)}

theorem Walked.start (g : TokenGraph) (spot : String × String) : g.Walked [spot] :=
  ⟨by simp, by simp⟩

theorem Walked.extend {spot : String × String} (h : g.Walked walked) (fresh : spot ∉ walked)
    (landing : spot ∈ g.landings) : g.Walked (walked ++ [spot]) := by
  constructor
  · apply List.nodup_append.2
    refine ⟨h.distinct, by simp, ?_⟩
    intro a inside b here same
    simp only [List.mem_singleton] at here
    exact fresh (here ▸ same ▸ inside)
  · intro other inside
    cases walked with
    | nil => simp at inside
    | cons first rest =>
      rcases List.mem_append.1 inside with before | last
      · exact h.landed _ before
      · simp only [List.mem_singleton] at last
        exact last ▸ landing

theorem length_landings_le (g : TokenGraph) : g.landings.length ≤ g.tokens.size := by
  have filtered : g.landings.length ≤ g.tokens.values.length := List.length_filterMap_le ..
  have listed : g.tokens.values.length = g.tokens.size := List.length_map ..
  omega

theorem Walked.length_le (h : g.Walked walked) : walked.length ≤ g.tokens.size + 1 := by
  have distinct : walked.tail.Nodup := h.distinct.sublist (List.tail_sublist _)
  have tail : walked.tail.length ≤ g.landings.length :=
    (distinct.subperm h.landed).length_le
  have landings := g.length_landings_le
  have length := List.length_tail (l := walked)
  omega

theorem step_eq_of_known {s : Spot} {met : List (String × String)} (known : s.key ∈ met) :
    Turn.step g ⟨s, met⟩ = .inl (.error (.cycle (met.map Prod.fst ++ [s.token.id]))) := by
  rw [Turn.step, if_pos (List.contains_iff_mem.2 known)]

theorem run_eq_of_known {s : Spot} {met : List (String × String)} {n : Nat}
    (known : s.key ∈ met) : Turn.run g (n + 1) ⟨s, met⟩ =
      some (.error (.cycle (met.map Prod.fst ++ [s.token.id]))) := by
  rw [Turn.run, step_eq_of_known known]

theorem step_eq_of_fresh {s : Spot} {met : List (String × String)} (fresh : s.key ∉ met) :
    Turn.step g ⟨s, met⟩ =
      match s.token.value? s.mode with
      | none => .inl (.ok none)
      | some (.concrete value) => .inl (.ok (some value))
      | some (.aliasOf id) =>
        match g.token? id with
        | none => .inl (.error (.dangling s.token.id id .token))
        | some target =>
          match g.collection? target.collection with
          | none => .inl (.error (.dangling s.token.id target.collection .collection))
          | some c => .inr ⟨⟨target, c.defaultMode⟩, met ++ [s.key]⟩ := by
  rw [Turn.step, if_neg]
  exact fun known => fresh (List.contains_iff_mem.1 known)

theorem turns_left {v : Variable} {mode : String} {met : List (String × String)} {n : Nat}
    (h : g.Walked walked) (same : met ++ [(v.id, mode)] = walked)
    (enough : g.tokens.size + 2 ≤ n + met.length) :
    Spot.key ⟨v, mode⟩ ∉ met ∧ ∃ k, n = k + 2 := by
  subst same
  have bound := h.length_le
  simp only [List.length_append, List.length_singleton] at bound
  have disjoint := (List.nodup_append.1 h.distinct).2.2
  refine ⟨fun known => disjoint _ known _ (List.mem_singleton_self _) rfl, n - 2, ?_⟩
  omega

/-- The turns of a walk come to what following comes to. -/
theorem run_eq_follow (v : Variable) (mode : String) (met : List (String × String))
    (h : g.Walked (met ++ [(v.id, mode)])) (n : Nat)
    (enough : g.tokens.size + 2 ≤ n + met.length) :
    Turn.run g n ⟨⟨v, mode⟩, met⟩ = some (g.follow v mode (met ++ [(v.id, mode)])) := by
  generalize same : met ++ [(v.id, mode)] = walked at h ⊢
  fun_induction g.follow v mode walked generalizing met n with
  | case1 v mode walked value =>
    obtain ⟨fresh, k, rfl⟩ := turns_left h same enough
    simp [Turn.run, step_eq_of_fresh fresh, value]
  | case2 v mode walked x value =>
    obtain ⟨fresh, k, rfl⟩ := turns_left h same enough
    simp [Turn.run, step_eq_of_fresh fresh, value]
  | case3 v mode walked id value missing =>
    obtain ⟨fresh, k, rfl⟩ := turns_left h same enough
    simp [Turn.run, step_eq_of_fresh fresh, value, missing]
  | case4 v mode walked id value target found missing =>
    obtain ⟨fresh, k, rfl⟩ := turns_left h same enough
    simp [Turn.run, step_eq_of_fresh fresh, value, found, missing]
  | case5 v mode walked id value target found c owner known =>
    obtain ⟨fresh, k, rfl⟩ := turns_left h same enough
    rw [Turn.run, step_eq_of_fresh fresh]
    simp only [value, found, owner]
    subst same
    exact run_eq_of_known known
  | case6 v mode walked id value target found c owner unknown smaller ih =>
    obtain ⟨fresh, k, rfl⟩ := turns_left h same enough
    rw [Turn.run, step_eq_of_fresh fresh]
    simp only [value, found, owner]
    subst same
    apply ih
    · simp at enough ⊢
      omega
    · rfl
    · exact h.extend unknown (mem_landings found owner)

theorem step_chain {t : Turn} {chain : List String}
    (h : t.step g = .inl (.error (.cycle chain))) : chain.length = t.met.length + 1 := by
  by_cases known : t.spot.key ∈ t.met
  · rw [step_eq_of_known known] at h
    cases h
    simp
  · rw [step_eq_of_fresh known] at h
    repeat' split at h
    all_goals cases h

theorem step_met {t next : Turn} (h : t.step g = .inr next) :
    next.met.length = t.met.length + 1 := by
  by_cases known : t.spot.key ∈ t.met
  · rw [step_eq_of_known known] at h
    cases h
  · rw [step_eq_of_fresh known] at h
    repeat' split at h
    all_goals cases h
    simp

theorem length_le_of_run_eq_cycle {n : Nat} {t : Turn} {chain : List String}
    (h : Turn.run g n t = some (.error (.cycle chain))) : chain.length ≤ n + t.met.length := by
  induction n generalizing t with
  | zero => cases h
  | succ n ih =>
    rw [Turn.run] at h
    cases turn : t.step g with
    | inl result =>
      simp only [turn, Option.some.injEq] at h
      have := step_chain (h ▸ turn)
      omega
    | inr next =>
      simp only [turn] at h
      have further := ih h
      have := step_met turn
      omega

/-- Resolving takes two turns more than there are tokens at most, and so does the chain of a cycle
    have two tokens more. -/
theorem resolve_turns_le (g : TokenGraph) (v : Variable) (mode : String) :
    Turn.run g (g.tokens.size + 2) ⟨⟨v, mode⟩, []⟩ = some (g.resolve v mode) ∧
      ∀ chain, g.resolve v mode = .error (.cycle chain) → chain.length ≤ g.tokens.size + 2 := by
  have turns := run_eq_follow v mode [] (.start g (v.id, mode)) (g.tokens.size + 2) (by simp)
  refine ⟨turns, fun chain result => ?_⟩
  have bound := length_le_of_run_eq_cycle (turns.trans (congrArg some result))
  simpa using bound

def ringToken : Variable :=
  ⟨"b", "b", "c", .ofList [("m", some (.aliasOf "b"))], false, .empty⟩

def ring : TokenGraph where
  collections := .ofList [("c", ⟨"c", "c", [⟨"m", "m"⟩], "m", false, ["b"], .empty⟩)]
  tokens := .ofList [("b", ringToken)]

example : ring.resolve { ringToken with id := "a" } "m" = .error (.cycle ["a", "b", "b"]) := by
  decide +kernel

end TokenGraph

end DesignTokens
