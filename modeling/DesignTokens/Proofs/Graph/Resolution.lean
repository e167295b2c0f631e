import DesignTokens.Proofs.Graph.Walk

namespace DesignTokens.TokenGraph

open Spot

variable {g : TokenGraph} {start : Spot}

/-- Following comes to what the rules say, or knows a spot of the walk again. -/
theorem follow_yields_or_lap (v : Variable) (mode : String) (walked : List (String × String))
    (spots : List Spot) (trail : Trail g start (spots ++ [⟨v, mode⟩]))
    (keys : walked = (spots ++ [(⟨v, mode⟩ : Spot)]).map key) (distinct : walked.Nodup) :
    Yields g ⟨v, mode⟩ (g.follow v mode walked) ∨
      ∃ chain, g.follow v mode walked = .error (.cycle chain) ∧ Lap g start chain := by
  fun_induction g.follow v mode walked generalizing spots with
  | case1 v mode walked value => exact .inl (.absent value)
  | case2 v mode walked x value => exact .inl (.concrete value)
  | case3 v mode walked id value missing => exact .inl (.noToken value missing)
  | case4 v mode walked id value target found missing =>
    exact .inl (.noCollection value found missing)
  | case5 v mode walked id value target found c owner known =>
    have step : next? g ⟨v, mode⟩ = some ⟨target, c.defaultMode⟩ := by
      simp [next?, value, found, owner]
    refine .inr ⟨_, rfl, spots ++ [⟨v, mode⟩], ⟨target, c.defaultMode⟩, trail.extend step, ?_, ?_, ?_⟩
    · rw [← keys]
      exact distinct
    · rw [← keys]
      exact known
    · rw [keys]
      simp [key]
  | case6 v mode walked id value target found c owner fresh smaller ih =>
    have step : next? g ⟨v, mode⟩ = some ⟨target, c.defaultMode⟩ := by
      simp [next?, value, found, owner]
    have further := ih (spots ++ [⟨v, mode⟩]) (trail.extend step) (by rw [keys]; simp [key])
      (List.nodup_append.2 ⟨distinct, by simp, by
        intro a inside b here same
        simp only [List.mem_singleton] at here
        exact fresh (here ▸ same ▸ inside)⟩)
    rcases further with rest | lap
    · exact .inl (.of_next? step rest)
    · exact .inr lap

theorem resolve_yields_or_lap (g : TokenGraph) (v : Variable) (mode : String) :
    Yields g ⟨v, mode⟩ (g.resolve v mode) ∨
      ∃ chain, g.resolve v mode = .error (.cycle chain) ∧ Lap g ⟨v, mode⟩ chain :=
  follow_yields_or_lap v mode [(v.id, mode)] [] (trail_start g ⟨v, mode⟩) rfl (by simp)

theorem KeyedById.token_eq (keyed : g.KeyedById) {v w : Variable} (hv : v ∈ g.tokens.values)
    (hw : w ∈ g.tokens.values) (same : v.id = w.id) : v = w := by
  obtain ⟨⟨k, v⟩, entryV, rfl⟩ := List.mem_map.1 hv
  obtain ⟨⟨l, w⟩, entryW, rfl⟩ := List.mem_map.1 hw
  have keyV : k = v.id := keyed.2 _ entryV
  have keyW : l = w.id := keyed.2 _ entryW
  have entries := List.inj_on_of_nodup_map g.tokens.distinct entryV entryW
  exact congrArg Prod.snd (entries (keyV.trans (same.trans keyW.symm)))

theorem mem_values_of_token? {id : String} {v : Variable} (h : g.token? id = some v) :
    v ∈ g.tokens.values := List.mem_map.2 ⟨(id, v), mem_of_lookup? h, rfl⟩

theorem after?_mem (member : start.token ∈ g.tokens.values) {n : Nat} {s : Spot}
    (h : start.after? g n = some s) : s.token ∈ g.tokens.values := by
  cases n with
  | zero =>
    cases h
    exact member
  | succ n =>
    obtain ⟨before, -, step⟩ := Option.bind_eq_some_iff.1 h
    obtain ⟨id, c, -, found, -, -⟩ := next?_eq_some step
    exact mem_values_of_token? found

/-- A walk that comes back to a spot goes round for ever. -/
theorem endless_of_repeat {i n : Nat} (before : i < n) (same : start.after? g i = start.after? g n)
    (here : (start.after? g n).isSome) : Endless g start := by
  have periodic : ∀ m, start.after? g (i + m) = start.after? g (n + m) := by
    intro m
    induction m with
    | zero => exact same
    | succ m ih => rw [← Nat.add_assoc, ← Nat.add_assoc, after?, after?, ih]
  have backwards : ∀ m, (start.after? g (m + 1)).isSome → (start.after? g m).isSome := by
    intro m h
    cases there : start.after? g m with
    | none => simp [after?, there] at h
    | some s => rfl
  intro m
  induction m using Nat.strongRecOn with
  | ind m ih =>
    rcases Nat.lt_or_ge n m with behind | ahead
    · obtain ⟨k, rfl⟩ := Nat.exists_eq_add_of_lt behind
      rw [Nat.add_assoc, ← periodic]
      exact ih _ (by omega)
    · have down : ∀ k ≤ n, (start.after? g (n - k)).isSome := by
        intro k
        induction k with
        | zero => exact fun _ => here
        | succ k ih =>
          intro bound
          apply backwards
          have : n - (k + 1) + 1 = n - k := by omega
          rw [this]
          exact ih (by omega)
      have := down (n - m) (by omega)
      rwa [show n - (n - m) = m by omega] at this

theorem KeyedById.endless_of_lap (keyed : g.KeyedById) (member : start.token ∈ g.tokens.values)
    {chain : List String} (lap : Lap g start chain) : Endless g start := by
  obtain ⟨spots, last, trail, -, known, -⟩ := lap
  obtain ⟨earlier, inside, sameKey⟩ := List.mem_map.1 known
  obtain ⟨i, bound, rfl⟩ := List.getElem_of_mem inside
  have atEarlier : start.after? g i = some spots[i] := by
    rw [trail i (by simp; omega), List.getElem?_append_left bound]
    simp
  have atLast : start.after? g spots.length = some last := by
    rw [trail spots.length (by simp)]
    simp
  have same : spots[i] = last := by
    have ids : spots[i].token.id = last.token.id := congrArg Prod.fst sameKey
    have modes : spots[i].mode = last.mode := congrArg Prod.snd sameKey
    exact Spot.ext (keyed.token_eq (after?_mem member atEarlier) (after?_mem member atLast) ids)
      modes
  apply endless_of_repeat bound
  · rw [atEarlier, atLast, same]
  · rw [atLast]
    rfl

/-- Resolving comes to what the rules say. It is an error of a cycle for the walks without an end,
    and shows their first lap. -/
theorem KeyedById.resolve_eq_iff (keyed : g.KeyedById) {v : Variable}
    (member : v ∈ g.tokens.values) (mode : String) :
    (∀ r, Yields g ⟨v, mode⟩ r ↔ g.resolve v mode = r ∧ ∀ chain, r ≠ .error (.cycle chain)) ∧
      (Endless g ⟨v, mode⟩ ↔ ∃ chain, g.resolve v mode = .error (.cycle chain)) ∧
      ∀ chain, Lap g ⟨v, mode⟩ chain ↔ g.resolve v mode = .error (.cycle chain) := by
  rcases g.resolve_yields_or_lap v mode with yields | ⟨chain, result, lap⟩
  · have finite := yields.not_endless
    refine ⟨fun r => ⟨fun h => ⟨yields.unique h, h.not_cycle⟩, fun h => h.1 ▸ yields⟩, ?_, ?_⟩
    · exact ⟨fun h => (finite h).elim, fun ⟨chain, h⟩ => (yields.not_cycle chain h).elim⟩
    · intro chain
      exact ⟨fun lap => (finite (keyed.endless_of_lap member lap)).elim,
        fun h => (yields.not_cycle chain h).elim⟩
  · have endless := keyed.endless_of_lap member lap
    refine ⟨fun r => ⟨fun h => (h.not_endless endless).elim, ?_⟩, ?_, ?_⟩
    · rintro ⟨same, noCycle⟩
      exact (noCycle chain (same ▸ result)).elim
    · exact ⟨fun _ => ⟨chain, result⟩, fun _ => endless⟩
    · intro other
      rw [result]
      refine ⟨fun h => by rw [lap.unique h], fun h => ?_⟩
      cases h
      exact lap

instance (g : TokenGraph) : Decidable g.KeyedById := inferInstanceAs (Decidable (_ ∧ _))

def listed (id : String) (values : List (String × Option TokenValue)) : Variable :=
  ⟨id, id, "c", .ofList values, false, .empty⟩

def ink : Variable :=
  listed "ink" [("day", some (.concrete (.text "blue"))), ("night", some (.aliasOf "page"))]

def page : Variable := listed "page" [("day", some (.aliasOf "ink"))]

def loop : Variable := listed "loop" [("day", some (.aliasOf "loop"))]

def woven : TokenGraph where
  collections := .ofList
    [("c", ⟨"c", "c", [⟨"day", "Day"⟩, ⟨"night", "Night"⟩], "day", false, ["ink", "page", "loop"],
      .empty⟩)]
  tokens := .ofList [("ink", ink), ("page", page), ("loop", loop)]

theorem woven_resolve : woven.KeyedById ∧ ink ∈ woven.tokens.values ∧ loop ∈ woven.tokens.values ∧
    woven.resolve ink "night" = .ok (some (.text "blue")) ∧
    woven.resolve loop "day" = .error (.cycle ["loop", "loop"]) := by
  have keyed : woven.KeyedById := by decide
  have inkIn : ink ∈ woven.tokens.values := by decide
  have loopIn : loop ∈ woven.tokens.values := by decide
  refine ⟨keyed, inkIn, loopIn, ?_, ?_⟩
  · apply And.left
    apply ((keyed.resolve_eq_iff inkIn "night").1 _).1
    exact .further rfl rfl rfl (.further rfl rfl rfl (.concrete rfl))
  · apply ((keyed.resolve_eq_iff loopIn "day").2.2 _).1
    refine ⟨[⟨loop, "day"⟩], ⟨loop, "day"⟩, ?_, by decide, by decide, rfl⟩
    have step : next? woven ⟨loop, "day"⟩ = some ⟨loop, "day"⟩ := rfl
    show Trail woven ⟨loop, "day"⟩ ([] ++ [⟨loop, "day"⟩] ++ [⟨loop, "day"⟩])
    exact (trail_start woven ⟨loop, "day"⟩).extend step

end DesignTokens.TokenGraph
