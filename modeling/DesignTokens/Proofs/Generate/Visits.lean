import DesignTokens.Proofs.Generate.Emission

/-!
A run as a row of visits. Each visit of a member adds its line or stops the run, and a run that
stops does so at the first visit that can stop it; a boundary at which a generator hands nothing out
changes nothing.
-/

namespace DesignTokens

inductive First {α β : Type} (rel : α → β → Prop) (y : β) : List α → Prop where
  | here {x : α} {xs : List α} : rel x y → First rel y (x :: xs)
  | later {x : α} {xs : List α} : (∀ z, ¬rel x z) → First rel y xs → First rel y (x :: xs)

namespace First

theorem exists_mem {α β : Type} {rel : α → β → Prop} {xs : List α} {y : β} (h : First rel y xs) :
    ∃ x ∈ xs, rel x y := by
  induction h with
  | here h => exact ⟨_, by simp, h⟩
  | later _ _ ih =>
    obtain ⟨x, hx, h⟩ := ih
    exact ⟨x, List.mem_cons_of_mem _ hx, h⟩

end First

structure Visit where
  place : Place
  id : String
  deriving DecidableEq

namespace Place

def visits (place : Place) : List Visit := place.collection.members.map (⟨place, ·⟩)

end Place

namespace TokenGraph

def places (g : TokenGraph) : List Place :=
  g.collections.values.flatMap fun c => c.modes.map (⟨c, ·⟩)

def visits (g : TokenGraph) : List Visit := g.places.flatMap Place.visits

end TokenGraph

namespace Visit

def step (v : Visit) : Step := .member v.place v.id

/-- The aliases of the member come back to themselves. -/
def Cycles (g : TokenGraph) (v : Visit) (e : GenerationError) : Prop :=
  ∃ token chain, g.token? v.id = some token ∧
    g.resolve token v.place.mode.id = .error (.cycle chain) ∧ e = .resolve token.id (.cycle chain)

/-- The member could be a variable by its name, but its value has no literal. -/
def Unwritable (g : TokenGraph) (v : Visit) (e : GenerationError) : Prop :=
  ∃ token value, g.token? v.id = some token ∧
    g.resolve token v.place.mode.id = .ok (some value) ∧ Naming.isNumeric token.name = false ∧
      value.literal? .scss = none ∧ e = .unsupported token.name value.kind

end Visit

def Emission.assignment? (marked : Bool) (e : Emission) : Option String :=
  if Naming.isNumeric e.token.name then none
  else (e.value.literal? .scss).map fun literal =>
    "$" ++ Naming.camel e.token.name ++ ": " ++ literal ++
      (if marked then " !default" else "") ++ ";"

namespace Generator.Kind

/-- What a visit stops a run with. -/
def Stops (g : TokenGraph) : Kind → Visit → GenerationError → Prop
  | .css _, v, e => v.Cycles g e
  | .scss .., v, e => v.Cycles g e ∨ v.Unwritable g e

def line? : Kind → Emission → Option String
  | .css _, e => some e.declaration.render
  | .scss _ marked, e => e.assignment? marked

def visited? (g : TokenGraph) (kind : Kind) (v : Visit) : Option String :=
  (v.place.emission? g v.id).bind kind.line?

def moves : Kind → Step → Bool
  | .css _, .close (.mode _) | .css _, .close (.collection _) => false
  | .scss .., .close (.collection _) | .scss .., .close .graph => false
  | _, _ => true

variable {g : TokenGraph} {kind : Kind} {v : Visit}

theorem Stops.of_cycles {e : GenerationError} (h : v.Cycles g e) : kind.Stops g v e := by
  cases kind with
  | css path => exact h
  | scss directory marked => exact .inl h

theorem silent (kind : Kind) (noCycle : ∀ e, ¬v.Cycles g e)
    (none : v.place.emission? g v.id = none) :
    kind.visited? g v = .none ∧ ∀ e, ¬kind.Stops g v e := by
  refine ⟨by rw [visited?, none]; rfl, ?_⟩
  intro e stops
  cases kind with
  | css path => exact noCycle e stops
  | scss directory marked =>
    rcases stops with cycle | ⟨token, value, found, resolved, -⟩
    · exact noCycle e cycle
    · simp [Place.emission?, found, resolved] at none

theorem stops_or_declares (kind : Kind) (buffer : List String) {token : Variable} {value : Concrete}
    {v : Visit} (found : g.token? v.id = some token)
    (resolved : g.resolve token v.place.mode.id = .ok (some value)) :
    (∃ e, declaration ⟨kind, buffer⟩ v.place token.name value = .error e ∧ kind.Stops g v e) ∨
      (declaration ⟨kind, buffer⟩ v.place token.name value = .ok (kind.visited? g v) ∧
        ∀ e, ¬kind.Stops g v e) := by
  have emits : v.place.emission? g v.id = some ⟨v.place, token, value⟩ := by
    simp [Place.emission?, found, resolved]
  have noCycle (e : GenerationError) : ¬v.Cycles g e := by
    rintro ⟨other, chain, found', cycle, -⟩
    cases found.symm.trans found'
    cases resolved.symm.trans cycle
  cases kind with
  | css path =>
    refine .inr ⟨?_, noCycle⟩
    rw [visited?, emits]
    rfl
  | scss directory marked =>
    have writable (e : GenerationError) (h : v.Unwritable g e) :
        Naming.isNumeric token.name = false ∧ value.literal? .scss = none := by
      obtain ⟨other, x, found', resolved', numeric, literal, -⟩ := h
      cases found.symm.trans found'
      cases resolved.symm.trans resolved'
      exact ⟨numeric, literal⟩
    rw [visited?, emits]
    cases numeric : Naming.isNumeric token.name with
    | true =>
      refine .inr ⟨by simp [declaration, line?, Emission.assignment?, numeric], ?_⟩
      rintro e (cycle | unwritable)
      · exact noCycle e cycle
      · exact absurd ((writable e unwritable).1.symm.trans numeric) (by decide)
    | false =>
      cases literal : value.literal? .scss with
      | none =>
        exact .inl ⟨_, by simp [declaration, numeric, literal],
          .inr ⟨token, value, found, resolved, numeric, literal, rfl⟩⟩
      | some text =>
        refine .inr ⟨by simp [declaration, line?, Emission.assignment?, numeric, literal], ?_⟩
        rintro e (cycle | unwritable)
        · exact noCycle e cycle
        · cases literal.symm.trans (writable e unwritable).2

end Generator.Kind

namespace Progress

variable {g : TokenGraph} {p q : Progress} {vs : List Visit}

structure After (g : TokenGraph) (p : Progress) (vs : List Visit) (q : Progress) : Prop where
  kind : q.generator.kind = p.generator.kind
  buffer : q.generator.buffer =
    p.generator.buffer ++ vs.filterMap (p.generator.kind.visited? g)
  artifacts : q.artifacts = p.artifacts

theorem After.of_silent {v : Visit} (silent : p.generator.kind.visited? g v = none)
    (generator : q.generator = p.generator) (artifacts : q.artifacts = p.artifacts) :
    p.After g [v] q :=
  ⟨by rw [generator], by simp [generator, silent], artifacts⟩

theorem step_visit (g : TokenGraph) (p : Progress) (v : Visit) :
    (∃ e, p.step g v.step = .error e ∧ p.generator.kind.Stops g v e) ∨
      ∃ q, p.step g v.step = .ok q ∧ p.After g [v] q ∧ ∀ e, ¬p.generator.kind.Stops g v e := by
  cases found : g.token? v.id with
  | none =>
    have noCycle (e : GenerationError) : ¬v.Cycles g e := by
      rintro ⟨token, chain, found', -⟩
      cases found.symm.trans found'
    obtain ⟨none, goes⟩ := p.generator.kind.silent noCycle (by simp [Place.emission?, found])
    exact .inr ⟨p.miss, by simp [step, Visit.step, found], .of_silent none rfl rfl, goes⟩
  | some token =>
    have entered : p.step g v.step = p.visit g v.place token := by simp [step, Visit.step, found]
    rw [entered, visit]
    cases resolved : g.resolve token v.place.mode.id with
    | error cause =>
      cases cause with
      | cycle chain =>
        exact .inl ⟨_, rfl, .of_cycles ⟨token, chain, found, resolved, rfl⟩⟩
      | dangling holder target missing =>
        have noCycle (e : GenerationError) : ¬v.Cycles g e := by
          rintro ⟨_, _, found', resolved', -⟩
          cases found.symm.trans found'
          cases resolved.symm.trans resolved'
        obtain ⟨none, goes⟩ :=
          p.generator.kind.silent noCycle (by simp [Place.emission?, found, resolved])
        exact .inr ⟨p.miss, rfl, .of_silent none rfl rfl, goes⟩
    | ok value? =>
      have noCycle (e : GenerationError) : ¬v.Cycles g e := by
        rintro ⟨_, _, found', resolved', -⟩
        cases found.symm.trans found'
        cases resolved.symm.trans resolved'
      cases value? with
      | none =>
        obtain ⟨none, goes⟩ :=
          p.generator.kind.silent noCycle (by simp [Place.emission?, found, resolved])
        exact .inr ⟨p.skip, rfl, .of_silent none rfl rfl, goes⟩
      | some value =>
        rcases p.generator.kind.stops_or_declares p.generator.buffer found resolved with
          ⟨e, refused, stops⟩ | ⟨declared, goes⟩
        · exact .inl ⟨e, by simp only [refused], stops⟩
        · refine .inr ?_
          simp only [declared]
          cases line : p.generator.kind.visited? g v with
          | none => exact ⟨p.skip, rfl, .of_silent line rfl rfl, goes⟩
          | some text =>
            refine ⟨p.declare text, rfl, ⟨rfl, ?_, rfl⟩, goes⟩
            simp [declare, Generator.append, line]

/-- Visits add their lines up to the first that stops the run. -/
theorem run_visits (g : TokenGraph) (p : Progress) (vs : List Visit) :
    (∃ q e, p.run g (vs.map Visit.step) = (q, some e) ∧ q.artifacts = p.artifacts ∧
        First (p.generator.kind.Stops g) e vs) ∨
      ∃ q, p.run g (vs.map Visit.step) = (q, none) ∧ p.After g vs q ∧
        ∀ v ∈ vs, ∀ e, ¬p.generator.kind.Stops g v e := by
  induction vs generalizing p with
  | nil => exact .inr ⟨p, rfl, ⟨rfl, by simp, rfl⟩, by simp⟩
  | cons v vs ih =>
    rw [List.map_cons, Progress.run]
    rcases p.step_visit g v with ⟨e, failed, stops⟩ | ⟨q, taken, after, goes⟩
    · exact .inl ⟨p, e, by rw [failed], rfl, .here stops⟩
    · rw [taken]
      dsimp only
      rcases ih q with ⟨r, e, failed, kept, first⟩ | ⟨r, ran, later, go⟩
      · rw [after.kind] at first
        exact .inl ⟨r, e, failed, kept.trans after.artifacts, .later goes first⟩
      · rw [after.kind] at go
        have kept := later.artifacts.trans after.artifacts
        refine .inr ⟨r, ran, ⟨later.kind.trans after.kind, ?_, kept⟩,
          List.forall_mem_cons.2 ⟨goes, go⟩⟩
        rw [later.buffer, after.buffer, after.kind, List.append_assoc, ← List.filterMap_append]
        rfl

theorem step_still {s : Step} (still : p.generator.kind.moves s = false) : p.step g s = .ok p := by
  obtain ⟨⟨kind, buffer⟩, artifacts, tally⟩ := p
  cases s with
  | member place id => cases kind <;> cases still
  | close boundary =>
    have unmoved : Generator.close ⟨kind, buffer⟩ boundary = (none, ⟨kind, buffer⟩) := by
      cases boundary <;> cases kind <;> first | rfl | cases still
    simp [step, unmoved]

theorem kind_step {s : Step} (taken : p.step g s = .ok q) :
    q.generator.kind = p.generator.kind := by
  cases s with
  | member place id =>
    rcases p.step_visit g ⟨place, id⟩ with ⟨e, failed, -⟩ | ⟨r, taken', after, -⟩
    · cases taken.symm.trans failed
    · cases taken.symm.trans taken'
      exact after.kind
  | close boundary =>
    obtain ⟨⟨kind, buffer⟩, artifacts, tally⟩ := p
    cases taken
    cases boundary <;> cases kind <;> rfl

theorem run_moves (g : TokenGraph) (p : Progress) (steps : List Step) :
    p.run g steps = p.run g (steps.filter p.generator.kind.moves) := by
  induction steps generalizing p with
  | nil => rfl
  | cons s steps ih =>
    rw [Progress.run]
    cases moves : p.generator.kind.moves s with
    | false =>
      rw [step_still moves, List.filter_cons_of_neg (by simp [moves])]
      exact ih p
    | true =>
      rw [List.filter_cons_of_pos moves, Progress.run]
      cases taken : p.step g s with
      | error e => rfl
      | ok q =>
        dsimp only
        rw [ih q, kind_step taken]

theorem run_append_eq (g : TokenGraph) (p : Progress) (steps more : List Step) :
    p.run g (steps ++ more) =
      match p.run g steps with
      | (q, none) => q.run g more
      | (q, some e) => (q, some e) := by
  induction steps generalizing p with
  | nil => rfl
  | cons s steps ih =>
    rw [List.cons_append, Progress.run, Progress.run]
    cases p.step g s with
    | error e => rfl
    | ok q => exact ih q

end Progress

namespace TokenGraph

variable {g : TokenGraph}

theorem filter_steps {kind : Generator.Kind} (vs : List Visit) :
    (vs.map Visit.step).filter kind.moves = vs.map Visit.step := by
  rw [List.filter_eq_self]
  intro s hs
  obtain ⟨v, -, rfl⟩ := List.mem_map.1 hs
  cases kind <;> rfl

theorem modeSteps_eq (place : Place) :
    modeSteps place = place.visits.map Visit.step ++ [.close (.mode place)] := by
  rw [modeSteps, Place.visits, List.map_map]
  rfl

theorem filter_walk_css (g : TokenGraph) (path : Path) :
    g.walk.filter (Generator.Kind.css path).moves = g.visits.map Visit.step ++ [.close .graph] := by
  have mode (place : Place) : (modeSteps place).filter (Generator.Kind.css path).moves =
      place.visits.map Visit.step := by
    rw [modeSteps_eq, List.filter_append, filter_steps]
    exact List.append_nil _
  have collection (c : Collection) : (collectionSteps c).filter (Generator.Kind.css path).moves =
      c.modes.flatMap fun mode => (Place.mk c mode).visits.map Visit.step := by
    rw [collectionSteps, List.filter_append, List.filter_flatMap]
    simp only [mode]
    exact List.append_nil _
  rw [walk, List.filter_append, List.filter_flatMap]
  simp only [collection, visits, places, List.map_flatMap, List.flatMap_assoc, List.flatMap_map]
  rfl

/-- A generator of variables goes through the modes, and closes each of them. -/
theorem filter_walk_scss (g : TokenGraph) (directory : Path) (marked : Bool) :
    g.walk.filter (Generator.Kind.scss directory marked).moves = g.places.flatMap modeSteps := by
  have mode (place : Place) :
      (modeSteps place).filter (Generator.Kind.scss directory marked).moves = modeSteps place := by
    rw [modeSteps_eq, List.filter_append, filter_steps]
    rfl
  have collection (c : Collection) :
      (collectionSteps c).filter (Generator.Kind.scss directory marked).moves =
        c.modes.flatMap fun mode => modeSteps ⟨c, mode⟩ := by
    rw [collectionSteps, List.filter_append, List.filter_flatMap]
    simp only [mode]
    exact List.append_nil _
  rw [walk, List.filter_append, List.filter_flatMap]
  simp only [collection, places, List.flatMap_assoc, List.flatMap_map]
  exact List.append_nil _

end TokenGraph

end DesignTokens
