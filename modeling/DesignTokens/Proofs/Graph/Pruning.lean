import DesignTokens.Proofs.Graph.Walk

namespace DesignTokens

section

variable {α : Type}

theorem lookup?_eq_none_of_not_mem {key : String} {entries : List (String × α)}
    (absent : key ∉ keysOf entries) : lookup? key entries = none := by
  cases found : lookup? key entries with
  | none => rfl
  | some value => exact absurd (List.mem_map.2 ⟨_, mem_of_lookup? found, rfl⟩) absent

namespace Keyed

theorem get?_filter (m : Keyed α) (keep : String → α → Bool) (key : String) :
    (m.filter keep).get? key = (m.get? key).filter (keep key) := by
  obtain ⟨entries, distinct⟩ := m
  simp only [get?, filter]
  induction entries with
  | nil => rfl
  | cons entry entries ih =>
    obtain ⟨fresh, distinct⟩ := List.nodup_cons.1 distinct
    rw [List.filter_cons, lookup?]
    by_cases same : entry.1 = key
    · subst same
      -- No later entry has the key, so the one that goes leaves none behind.
      have others : lookup? entry.1 (entries.filter fun e => keep e.1 e.2) = none := by
        rw [ih distinct, lookup?_eq_none_of_not_mem fresh]
        rfl
      rw [if_pos rfl]
      cases kept : keep entry.1 entry.2 with
      | true => rw [if_pos rfl, lookup?, if_pos rfl, Option.filter_some_pos kept]
      | false => rw [if_neg Bool.false_ne_true, others, Option.filter_some_neg (by simp [kept])]
    · cases kept : keep entry.1 entry.2 <;> simp [lookup?, same, ih distinct]

theorem filter_eq_self {m : Keyed α} {keep : String → α → Bool}
    (all : ∀ entry ∈ m.entries, keep entry.1 entry.2 = true) : m.filter keep = m := by
  have entries : (m.filter keep).entries = m.entries := List.filter_eq_self.2 all
  cases m
  cases h : Keyed.filter _ keep
  simp_all

end Keyed

end

/-- A record that a walk looks for: the token that an alias leads to, or the collection of that
    token. `holder` is the token with the alias. -/
structure Lookup where
  holder : String
  target : String
  record : Record
  deriving DecidableEq

namespace Lookup

def finds (g : TokenGraph) (l : Lookup) : Bool :=
  match l.record with
  | .token => (g.token? l.target).isSome
  | .collection => (g.collection? l.target).isSome

def lost (g h : TokenGraph) (l : Lookup) : Bool := l.finds g && !l.finds h

end Lookup

namespace Spot

/-- What is looked for at a spot: the token of its alias, and the collection of this token if it is
    there. -/
def lookups (g : TokenGraph) (s : Spot) : List Lookup :=
  match s.token.value? s.mode with
  | some (.aliasOf id) =>
    ⟨s.token.id, id, .token⟩ ::
      ((g.token? id).map fun target => ⟨s.token.id, target.collection, .collection⟩).toList
  | _ => []

/-- The spots of a walk that has been at those `walked`: it goes on until a spot has none behind it,
    or one that is known. -/
inductive Course (g : TokenGraph) : List (String × String) → Spot → List Spot → Prop where
  | ends {walked : List (String × String)} {s : Spot}
    (stop : ∀ t, s.next? g = some t → t.key ∈ walked) : Course g walked s [s]
  | further {walked : List (String × String)} {s t : Spot} {rest : List Spot}
    (step : s.next? g = some t) (fresh : t.key ∉ walked)
    (course : Course g (walked ++ [t.key]) t rest) : Course g walked s (s :: rest)

variable {g : TokenGraph} {s : Spot} {walked : List (String × String)} {spots others : List Spot}

theorem Course.unique (course : Course g walked s spots) (course' : Course g walked s others) :
    spots = others := by
  induction course generalizing others with
  | ends stop =>
    cases course' with
    | ends => rfl
    | further step fresh => exact absurd (stop _ step) fresh
  | further step fresh _ ih =>
    cases course' with
    | ends stop => exact absurd (stop _ step) fresh
    | further step' _ rest =>
      cases step.symm.trans step'
      rw [ih rest]

end Spot

namespace TokenGraph

open Spot

variable {g h : TokenGraph} {s : Spot} {walked : List (String × String)} {spots : List Spot}

theorem follow_eq (g : TokenGraph) (v : Variable) (mode : String)
    (walked : List (String × String)) :
    g.follow v mode walked =
      match v.value? mode with
      | none => .ok none
      | some (.concrete value) => .ok (some value)
      | some (.aliasOf id) =>
        match g.token? id with
        | none => .error (.dangling v.id id .token)
        | some target =>
          match g.collection? target.collection with
          | none => .error (.dangling v.id target.collection .collection)
          | some c =>
            if (target.id, c.defaultMode) ∈ walked then
              .error (.cycle (walked.map Prod.fst ++ [target.id]))
            else g.follow target c.defaultMode (walked ++ [(target.id, c.defaultMode)]) := by
  fun_cases follow g v mode walked <;> simp_all

theorem exists_course (g : TokenGraph) (v : Variable) (mode : String)
    (walked : List (String × String)) : ∃ spots, Course g walked ⟨v, mode⟩ spots := by
  -- The walk goes on in one case only; where it knows the next spot the course ends before it.
  fun_induction g.follow v mode walked with
  | case6 v mode walked id value target found c owner fresh _ ih =>
    obtain ⟨spots, course⟩ := ih
    have step : next? g ⟨v, mode⟩ = some ⟨target, c.defaultMode⟩ := by
      simp [next?, value, found, owner]
    exact ⟨_, .further step fresh course⟩
  | case5 v mode walked id value target found c owner known =>
    refine ⟨_, .ends fun t step => ?_⟩
    simp only [next?, value, found, owner, Option.bind_some, Option.map_some,
      Option.some.injEq] at step
    exact step ▸ known
  | _ => exact ⟨_, .ends fun t step => by simp_all [next?]⟩

structure Part (h g : TokenGraph) : Prop where
  token : ∀ {id v}, h.token? id = some v → g.token? id = some v
  collection : ∀ {id c}, h.collection? id = some c → g.collection? id = some c

theorem follow_of_next? {t : Spot} (step : s.next? g = some t) (walked : List (String × String)) :
    g.follow s.token s.mode walked =
      if t.key ∈ walked then .error (.cycle (walked.map Prod.fst ++ [t.token.id]))
      else g.follow t.token t.mode (walked ++ [t.key]) := by
  obtain ⟨target, mode⟩ := t
  obtain ⟨id, c, value, found, owner, rfl⟩ := next?_eq_some step
  rw [follow_eq]
  simp only [value, found, owner]
  rfl

theorem Part.at_spot (part : Part h g) (s : Spot) (walked : List (String × String)) :
    (∃ l, (s.lookups g).find? (Lookup.lost g h) = some l ∧
        h.follow s.token s.mode walked = .error (.dangling l.holder l.target l.record)) ∨
      (s.lookups g).find? (Lookup.lost g h) = none ∧
        ((s.next? g = none ∧ h.follow s.token s.mode walked = g.follow s.token s.mode walked) ∨
          ∃ t, s.next? g = some t ∧ s.next? h = some t) := by
  cases value : s.token.value? s.mode with
  | none => exact .inr (by simp [lookups, next?, follow_eq, value])
  | some x =>
    cases x with
    | concrete x => exact .inr (by simp [lookups, next?, follow_eq, value])
    | aliasOf id =>
      cases left : h.token? id with
      | none =>
        cases found : g.token? id with
        | none =>
          exact .inr (by simp [lookups, next?, follow_eq, value, found, left, Lookup.lost,
            Lookup.finds])
        | some target =>
          refine .inl ⟨⟨s.token.id, id, .token⟩, ?_, ?_⟩
          · simp [lookups, value, found, left, Lookup.lost, Lookup.finds]
          · simp only [follow_eq, value, left]
      | some target =>
        have found := part.token left
        cases leftOwner : h.collection? target.collection with
        | none =>
          cases owner : g.collection? target.collection with
          | none =>
            exact .inr (by simp [lookups, next?, follow_eq, value, found, left, owner, leftOwner,
              Lookup.lost, Lookup.finds])
          | some c =>
            refine .inl ⟨⟨s.token.id, target.collection, .collection⟩, ?_, ?_⟩
            · simp [lookups, value, found, left, owner, leftOwner, Lookup.lost, Lookup.finds]
            · simp only [follow_eq, value, left, leftOwner]
        | some c =>
          have owner := part.collection leftOwner
          refine .inr ⟨?_, .inr ⟨⟨target, c.defaultMode⟩, ?_, ?_⟩⟩
          · simp [lookups, value, found, left, owner, leftOwner, Lookup.lost, Lookup.finds]
          · simp [next?, value, found, owner]
          · simp [next?, value, left, leftOwner]

/-- A walk in a part of a graph goes as in the whole, up to the first record that is lost. -/
theorem Part.follow (part : Part h g) (course : Course g walked s spots) :
    h.follow s.token s.mode walked =
      ((spots.flatMap (lookups g)).find? (Lookup.lost g h)).elim
        (g.follow s.token s.mode walked) fun l => .error (.dangling l.holder l.target l.record) := by
  induction course with
  | @ends walked s stop =>
    rw [List.flatMap_singleton]
    rcases part.at_spot s walked with ⟨l, lost, failed⟩ | ⟨kept, ⟨-, same⟩ | ⟨t, step, step'⟩⟩
    · rw [lost, failed]
      rfl
    · rw [kept, same]
      rfl
    · rw [kept, follow_of_next? step', Option.elim_none, follow_of_next? step,
        if_pos (stop t step), if_pos (stop t step)]
  | @further walked s t rest step fresh course ih =>
    rw [List.flatMap_cons, List.find?_append]
    rcases part.at_spot s walked with ⟨l, lost, failed⟩ | ⟨kept, ⟨last, -⟩ | ⟨u, stepU, step'⟩⟩
    · rw [lost, failed]
      rfl
    · cases last.symm.trans step
    · cases stepU.symm.trans step
      rw [kept, Option.none_or, follow_of_next? step', follow_of_next? step, if_neg fresh,
        if_neg fresh, ih]

theorem token?_withoutRemote (g : TokenGraph) (id : String) :
    g.withoutRemote.token? id = (g.token? id).filter fun v =>
      !v.remote && !((g.collections.values.filter (·.remote)).map (·.id)).contains v.collection :=
  Keyed.get?_filter ..

theorem collection?_withoutRemote (g : TokenGraph) (id : String) :
    g.withoutRemote.collection? id = (g.collection? id).filter fun c => !c.remote :=
  Keyed.get?_filter ..

theorem part_withoutRemote (g : TokenGraph) : Part g.withoutRemote g where
  token left := (Option.filter_eq_some_iff.1 (token?_withoutRemote g _ ▸ left)).1
  collection left := (Option.filter_eq_some_iff.1 (collection?_withoutRemote g _ ▸ left)).1

theorem mem_collections_withoutRemote {entry : String × Collection} :
    entry ∈ g.withoutRemote.collections.entries ↔
      entry ∈ g.collections.entries ∧ entry.2.remote = false := by
  simp [withoutRemote, Keyed.filter, List.mem_filter]

theorem mem_tokens_withoutRemote {entry : String × Variable} :
    entry ∈ g.withoutRemote.tokens.entries ↔
      entry ∈ g.tokens.entries ∧ entry.2.remote = false ∧
        ∀ c ∈ g.collections.values, c.remote = true → c.id ≠ entry.2.collection := by
  simp [withoutRemote, Keyed.filter, List.mem_filter]

theorem withoutRemote_withoutRemote (g : TokenGraph) :
    g.withoutRemote.withoutRemote = g.withoutRemote := by
  have own : ∀ c ∈ g.withoutRemote.collections.values, c.remote = false := by
    intro c hc
    obtain ⟨entry, he, rfl⟩ := List.mem_map.1 hc
    exact (mem_collections_withoutRemote.1 he).2
  have collections : (g.withoutRemote.collections.filter fun _ c => !c.remote) =
      g.withoutRemote.collections :=
    Keyed.filter_eq_self fun entry he => by simp [(mem_collections_withoutRemote.1 he).2]
  have removed : g.withoutRemote.collections.values.filter (·.remote) = [] :=
    List.filter_eq_nil_iff.2 fun c hc => by simp [own c hc]
  have tokens : (g.withoutRemote.tokens.filter fun _ v => !v.remote) = g.withoutRemote.tokens :=
    Keyed.filter_eq_self fun entry he => by simp [(mem_tokens_withoutRemote.1 he).2.1]
  rw [withoutRemote, collections, removed]
  simp [tokens]

/-- A token comes to the same value, or lack of one, or cycle as in the whole graph if all records
    stay that its walk there looks for and finds; if not, the first of them that is gone is what its
    alias lacks. Leaving out a second time changes nothing, and what stays is in its old order. -/
theorem resolve_withoutRemote (g : TokenGraph) (v : Variable) (mode : String) :
    let left := g.withoutRemote
    (∃ spots, (∀ others, Course g [(v.id, mode)] ⟨v, mode⟩ others ↔ others = spots) ∧
        left.resolve v mode =
          ((spots.flatMap (lookups g)).find? (Lookup.lost g left)).elim (g.resolve v mode)
            fun l => .error (.dangling l.holder l.target l.record)) ∧
      (∀ value?, left.resolve v mode = .ok value? → g.resolve v mode = .ok value?) ∧
      (∀ chain, left.resolve v mode = .error (.cycle chain) →
        g.resolve v mode = .error (.cycle chain)) ∧
      left.withoutRemote = left ∧
      left.collections.entries.Sublist g.collections.entries ∧
      left.tokens.entries.Sublist g.tokens.entries ∧
      (∀ entry, entry ∈ left.collections.entries ↔
        entry ∈ g.collections.entries ∧ entry.2.remote = false) ∧
      ∀ entry, entry ∈ left.tokens.entries ↔
        entry ∈ g.tokens.entries ∧ entry.2.remote = false ∧
          ∀ c ∈ g.collections.values, c.remote = true → c.id ≠ entry.2.collection := by
  intro left
  obtain ⟨spots, course⟩ := g.exists_course v mode [(v.id, mode)]
  have walk : left.resolve v mode =
      ((spots.flatMap (lookups g)).find? (Lookup.lost g left)).elim (g.resolve v mode)
        fun l => .error (.dangling l.holder l.target l.record) :=
    g.part_withoutRemote.follow course
  have only (others : List Spot) : Course g [(v.id, mode)] ⟨v, mode⟩ others ↔ others = spots :=
    ⟨fun other => other.unique course, fun same => same ▸ course⟩
  -- An end that is not a missing record shows that nothing was lost on the way.
  have same {r : Except ResolveError (Option Concrete)} (ended : left.resolve v mode = r)
      (held : ∀ holder target record, r ≠ .error (.dangling holder target record)) :
      g.resolve v mode = r := by
    rw [walk] at ended
    cases lost : (spots.flatMap (lookups g)).find? (Lookup.lost g left) with
    | none => rwa [lost] at ended
    | some l =>
      rw [lost] at ended
      exact (held _ _ _ ended.symm).elim
  exact ⟨⟨spots, only, walk⟩, fun _ ended => same ended nofun, fun _ ended => same ended nofun,
    withoutRemote_withoutRemote g, List.filter_sublist, List.filter_sublist,
    fun _ => mem_collections_withoutRemote, fun _ => mem_tokens_withoutRemote⟩

def owned (collection id : String) (value : TokenValue) : Variable :=
  ⟨id, id, collection, .ofList [("m", some value)], false, .empty⟩

def edge : Variable := owned "own" "edge" (.aliasOf "fill")

def rim : Variable := owned "own" "rim" (.aliasOf "line")

def fill : Variable := owned "lib" "fill" (.concrete (.boolean true))

def linked : TokenGraph where
  collections := .ofList
    [("own", ⟨"own", "Own", [⟨"m", "Only"⟩], "m", false, ["edge", "rim"], .empty⟩),
     ("lib", ⟨"library", "Library", [⟨"m", "Only"⟩], "m", true, ["fill", "line"], .empty⟩)]
  tokens := .ofList
    [("edge", edge), ("rim", rim), ("fill", fill),
     ("line", owned "library" "line" (.concrete (.boolean false)))]

theorem linked_withoutRemote :
    linked.resolve edge "m" = .ok (some (.boolean true)) ∧
      linked.withoutRemote.resolve edge "m" = .error (.dangling "edge" "lib" .collection) ∧
      linked.resolve rim "m" = .error (.dangling "rim" "library" .collection) ∧
      linked.withoutRemote.resolve rim "m" = .error (.dangling "rim" "line" .token) := by
  refine ⟨by decide +kernel, ?_, by decide +kernel, ?_⟩
  · obtain ⟨⟨spots, only, walk⟩, -⟩ := linked.resolve_withoutRemote edge "m"
    have course : Course linked [("edge", "m")] ⟨edge, "m"⟩ [⟨edge, "m"⟩, ⟨fill, "m"⟩] :=
      .further rfl (by decide) (.ends nofun)
    rw [walk, ← (only _).1 course]
    decide +kernel
  · obtain ⟨⟨spots, only, walk⟩, -⟩ := linked.resolve_withoutRemote rim "m"
    have course : Course linked [("rim", "m")] ⟨rim, "m"⟩ [⟨rim, "m"⟩] := .ends nofun
    rw [walk, ← (only _).1 course]
    decide +kernel

end TokenGraph

end DesignTokens
