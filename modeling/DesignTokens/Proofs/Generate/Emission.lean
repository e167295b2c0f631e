import DesignTokens.Generate.Run
import DesignTokens.Proofs.Generate.Literal
import DesignTokens.Proofs.Theme.Reading
import DesignTokens.Theme.Block

namespace DesignTokens

/-- A token that has a value in a mode of a collection that lists it. -/
structure Emission where
  place : Place
  token : Variable
  value : Concrete
  deriving DecidableEq

def Place.emission? (g : TokenGraph) (place : Place) (id : String) : Option Emission :=
  match g.token? id with
  | none => none
  | some v =>
    match g.resolve v place.mode.id with
    | .ok (some value) => some ⟨place, v, value⟩
    | _ => none

namespace TokenGraph

def emissions (g : TokenGraph) : List Emission :=
  g.collections.values.flatMap fun c =>
    c.modes.flatMap fun mode => c.members.filterMap (Place.emission? g ⟨c, mode⟩)

end TokenGraph

def Emission.declaration (e : Emission) : Declaration :=
  ⟨e.place.property e.token.name, (e.value.literal? .css).getD ""⟩

/-- No string among the values has a quote mark of its own, a backslash or a colon. -/
def Emission.Tame (e : Emission) : Prop :=
  ∀ text, e.value = .text text → ∀ c ∈ text.toList, c ≠ '\'' ∧ c ≠ '\\' ∧ c ≠ ':'

instance (e : Emission) : Decidable e.Tame := inferInstanceAs (Decidable e.value.Tame)

def Step.emission? (g : TokenGraph) : Step → Option Emission
  | .member place id => place.emission? g id
  | .close _ => none

def Step.Inner : Step → Prop
  | .close .graph => False
  | _ => True

variable {g : TokenGraph} {path : Path}

theorem Emission.legible (e : Emission) (tame : e.Tame) : e.declaration.Legible where
  name := e.place.property_dashed e.token.name
  value := Literal.spelling_css e.value tame

namespace TokenGraph

def inside (g : TokenGraph) : List Step := g.collections.values.flatMap collectionSteps

theorem inner_of_mem_inside {s : Step} (h : s ∈ g.inside) : s.Inner := by
  obtain ⟨c, -, hs⟩ := List.mem_flatMap.1 h
  simp only [collectionSteps, modeSteps, List.mem_append, List.mem_flatMap, List.mem_map,
    List.mem_singleton] at hs
  rcases hs with ⟨mode, -, ⟨id, -, rfl⟩ | rfl⟩ | rfl <;> trivial

theorem emissions_inside (g : TokenGraph) :
    g.inside.filterMap (Step.emission? g) = g.emissions := by
  have silent (boundary : Boundary) : [Step.close boundary].filterMap (Step.emission? g) = [] := rfl
  unfold inside emissions
  rw [List.filterMap_flatMap]
  congr 1
  funext c
  rw [collectionSteps, List.filterMap_append, List.filterMap_flatMap, silent, List.append_nil]
  congr 1
  funext mode
  rw [modeSteps, List.filterMap_append, List.filterMap_map, silent, List.append_nil]
  rfl

end TokenGraph

structure Progress.Collects (path : Path) (p : Progress) (emitted : List Emission) : Prop where
  kind : p.generator.kind = .css path
  artifacts : p.artifacts = []
  buffer : p.generator.buffer = emitted.map fun e => e.declaration.render
  counted : p.tally.declarations = emitted.length

namespace Progress.Collects

variable {p p' : Progress} {emitted : List Emission}

theorem miss (h : p.Collects path emitted) : p.miss.Collects path emitted :=
  ⟨h.kind, h.artifacts, h.buffer, h.counted⟩

theorem skip (h : p.Collects path emitted) : p.skip.Collects path emitted :=
  ⟨h.kind, h.artifacts, h.buffer, h.counted⟩

theorem declare (h : p.Collects path emitted) (e : Emission) :
    (p.declare e.declaration.render).Collects path (emitted ++ [e]) where
  kind := h.kind
  artifacts := h.artifacts
  buffer := by simp [Progress.declare, Generator.append, h.buffer]
  counted := by simp [Progress.declare, Tally.add, h.counted]

theorem declaration_eq (h : p.Collects path emitted) (e : Emission) :
    p.generator.declaration e.place e.token.name e.value = .ok (some e.declaration.render) := by
  rw [Generator.declaration, h.kind]
  rfl

theorem step (h : p.Collects path emitted) {s : Step} (inner : s.Inner)
    (taken : p.step g s = .ok p') :
    p'.Collects path (emitted ++ (s.emission? g).toList) := by
  cases s with
  | member place id =>
    cases found : g.token? id with
    | none =>
      simp only [Progress.step, found, Except.ok.injEq] at taken
      simpa [Step.emission?, Place.emission?, found, ← taken] using h.miss
    | some v =>
      simp only [Progress.step, found, Progress.visit] at taken
      cases value : g.resolve v place.mode.id with
      | error cause =>
        -- The step was taken, so the alias leads nowhere and does not come back to itself.
        simp only [value] at taken
        split at taken
        · cases taken
          simpa [Step.emission?, Place.emission?, found, value] using h.miss
        · cases taken
      | ok value? =>
        cases value? with
        | none =>
          simp only [value, Except.ok.injEq] at taken
          simpa [Step.emission?, Place.emission?, found, value, ← taken] using h.skip
        | some x =>
          have line := h.declaration_eq ⟨place, v, x⟩
          simp only [value, line, Except.ok.injEq] at taken
          simpa [Step.emission?, Place.emission?, found, value, ← taken] using
            h.declare ⟨place, v, x⟩
  | close boundary =>
    cases boundary with
    | graph => cases inner
    | mode place =>
      simp only [Progress.step, Generator.close, h.kind, Except.ok.injEq] at taken
      subst taken
      simpa [Step.emission?] using ⟨h.kind, by simp [h.artifacts], h.buffer, h.counted⟩
    | collection c =>
      simp only [Progress.step, Generator.close, Except.ok.injEq] at taken
      subst taken
      simpa [Step.emission?] using ⟨h.kind, by simp [h.artifacts], h.buffer, h.counted⟩

theorem run (h : p.Collects path emitted) {steps : List Step} (inner : ∀ s ∈ steps, s.Inner)
    (taken : p.run g steps = (p', none)) :
    p'.Collects path (emitted ++ steps.filterMap (Step.emission? g)) := by
  induction steps generalizing p emitted with
  | nil =>
    cases taken
    simpa using h
  | cons s rest ih =>
    rw [Progress.run] at taken
    cases first : p.step g s with
    | error e => simp [first] at taken
    | ok q =>
      simp only [first] at taken
      have later := ih (h.step (inner s (by simp)) first)
        (fun t ht => inner t (List.mem_cons_of_mem s ht)) taken
      rw [List.append_assoc] at later
      cases emits : s.emission? g with
      | none => simpa [emits, List.filterMap_cons] using later
      | some e => simpa [emits, List.filterMap_cons] using later

end Progress.Collects

theorem Progress.run_append {p p' : Progress} {steps more : List Step}
    (taken : p.run g (steps ++ more) = (p', none)) :
    ∃ q, p.run g steps = (q, none) ∧ q.run g more = (p', none) := by
  induction steps generalizing p with
  | nil => exact ⟨p, rfl, taken⟩
  | cons s rest ih =>
    rw [List.cons_append, Progress.run] at taken
    rw [Progress.run]
    cases first : p.step g s with
    | error e => simp [first] at taken
    | ok q =>
      simp only [first] at taken ⊢
      exact ih taken

theorem Declaration.render_not_blank {d : Declaration} (h : ∃ s, d.name.toList = '-' :: s) :
    Text.allBlank d.render = false := by
  obtain ⟨s, name⟩ := h
  simp [Text.allBlank, render, name, show Text.isBlank '-' = false by decide]

namespace Emission

theorem filter_not_blank (emitted : List Emission) :
    (emitted.map fun e => e.declaration.render).filter (fun line => !Text.allBlank line) =
      emitted.map fun e => e.declaration.render := by
  rw [List.filter_eq_self]
  intro line hl
  obtain ⟨e, -, rfl⟩ := List.mem_map.1 hl
  obtain ⟨stem, name, -⟩ := e.place.property_dashed e.token.name
  have dash : ∃ s, e.declaration.name.toList = '-' :: s := ⟨'-' :: stem, name⟩
  simp only [Declaration.render_not_blank dash, Bool.not_false]

end Emission

/-- A run of a generator of custom properties that does not stop hands out one file, the block of
    what the graph emits. -/
theorem Generator.run_css {p : Progress}
    (taken : (Generator.ofKind (.css path)).run g = (p, none)) :
    p.tally.declarations = g.emissions.length ∧ p.artifacts =
      [⟨path, .css, inRoot (renderLines (g.emissions.map Emission.declaration)) ++ "\n"⟩] := by
  have start : (Progress.start (.ofKind (.css path))).Collects path [] := ⟨rfl, rfl, rfl, rfl⟩
  obtain ⟨q, inside, last⟩ := Progress.run_append taken
  have collected := start.run (fun s hs => TokenGraph.inner_of_mem_inside hs) inside
  rw [List.nil_append, TokenGraph.emissions_inside] at collected
  have body : q.generator.body = renderLines (g.emissions.map Emission.declaration) := by
    rw [Generator.body, collected.buffer, Emission.filter_not_blank, renderLines, List.map_map]
    rfl
  simp only [Progress.run, Progress.step, Generator.close, collected.kind, body,
    collected.artifacts] at last
  cases last
  exact ⟨collected.counted, by simp [inRoot, inBlock, String.append_assoc]⟩

end DesignTokens
