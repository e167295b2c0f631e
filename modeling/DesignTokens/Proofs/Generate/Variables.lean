import DesignTokens.Proofs.Generate.Recorder
import DesignTokens.Proofs.Generate.Visits

namespace DesignTokens

theorem Emission.assignment?_dollar {marked : Bool} {e : Emission} {line : String}
    (h : e.assignment? marked = some line) : ∃ s, line.toList = '$' :: s := by
  rw [assignment?] at h
  split at h
  · cases h
  · obtain ⟨literal, -, rfl⟩ := Option.map_eq_some_iff.1 h
    exact ⟨_, by simp [String.toList_append]; rfl⟩

section

variable {lines : List String} (dollar : ∀ line ∈ lines, ∃ s, line.toList = '$' :: s)

include dollar

theorem Generator.body_of_dollar (kind : Kind) :
    Generator.body ⟨kind, lines⟩ = "\n".intercalate lines := by
  have all : lines.filter (fun line => !Text.allBlank line) = lines := by
    rw [List.filter_eq_self]
    intro line hl
    obtain ⟨s, hs⟩ := dollar line hl
    simp [Text.allBlank, hs, show Text.isBlank '$' = false by decide]
  rw [body, all]

theorem intercalate_eq_empty_of_dollar : "\n".intercalate lines = "" ↔ lines = [] := by
  cases lines with
  | nil => simp
  | cons line lines =>
    obtain ⟨s, hs⟩ := dollar line (by simp)
    refine ⟨fun empty => ?_, nofun⟩
    have chars := congrArg String.toList empty
    rw [String.toList_intercalate] at chars
    cases lines <;> simp [hs] at chars

end

namespace Place

def assignments (g : TokenGraph) (marked : Bool) (place : Place) : List String :=
  (place.collection.members.filterMap (place.emission? g)).filterMap (Emission.assignment? marked)

/-- The file of a mode. There is none if the mode declares nothing. -/
def artifact? (g : TokenGraph) (directory : Path) (marked : Bool) (place : Place) :
    Option Artifact :=
  let lines := place.assignments g marked
  if lines = [] then none
  else some ⟨directory.join ⟨place.file⟩, .scss, "\n".intercalate lines ++ "\n"⟩

variable {g : TokenGraph} {directory : Path} {marked : Bool} {place : Place}

theorem assignments_eq (directory : Path) : place.assignments g marked =
    place.visits.filterMap ((Generator.Kind.scss directory marked).visited? g) := by
  rw [assignments, List.filterMap_filterMap, visits, List.filterMap_map]
  rfl

theorem close_assignments :
    Generator.close ⟨.scss directory marked, place.assignments g marked⟩ (.mode place) =
      (place.artifact? g directory marked, .ofKind (.scss directory marked)) := by
  have dollar : ∀ line ∈ place.assignments g marked, ∃ s, line.toList = '$' :: s := by
    intro line hl
    obtain ⟨e, -, he⟩ := List.mem_filterMap.1 hl
    exact Emission.assignment?_dollar he
  simp only [Generator.close, artifact?, Generator.body_of_dollar dollar,
    intercalate_eq_empty_of_dollar dollar]
  rfl

end Place

namespace Progress

variable {g : TokenGraph} {directory : Path} {marked : Bool} {p : Progress}

theorem run_mode (fresh : p.generator = .ofKind (.scss directory marked)) (place : Place) :
    (∃ q e, p.run g (TokenGraph.modeSteps place) = (q, some e) ∧ q.artifacts = p.artifacts ∧
        First ((Generator.Kind.scss directory marked).Stops g) e place.visits) ∨
      ∃ q, p.run g (TokenGraph.modeSteps place) = (q, none) ∧ q.generator = p.generator ∧
        q.artifacts = p.artifacts ++ (place.artifact? g directory marked).toList ∧
          ∀ v ∈ place.visits, ∀ e, ¬(Generator.Kind.scss directory marked).Stops g v e := by
  rw [TokenGraph.modeSteps_eq, run_append_eq]
  have kind : p.generator.kind = .scss directory marked := by rw [fresh]; rfl
  rcases p.run_visits g place.visits with ⟨q, e, stopped, kept, first⟩ | ⟨q, went, after, goes⟩
  · rw [stopped]
    exact .inl ⟨q, e, rfl, kept, kind ▸ first⟩
  · have closed : q.generator.close (.mode place) =
        (place.artifact? g directory marked, p.generator) := by
      have collected : q.generator = ⟨.scss directory marked, place.assignments g marked⟩ := by
        rw [show q.generator = ⟨q.generator.kind, q.generator.buffer⟩ from rfl, after.kind,
          after.buffer, fresh, Place.assignments_eq directory]
        rfl
      rw [collected, Place.close_assignments, fresh]
    rw [went]
    refine .inr ⟨⟨p.generator, p.artifacts ++ (place.artifact? g directory marked).toList, q.tally⟩,
      ?_, rfl, rfl, kind ▸ goes⟩
    simp [run, step, closed, after.artifacts]

/-- The files of the modes come one after the other, up to the mode that a run stops in. -/
theorem run_places (fresh : p.generator = .ofKind (.scss directory marked)) (places : List Place) :
    (∃ q e before place after, places = before ++ place :: after ∧
        p.run g (places.flatMap TokenGraph.modeSteps) = (q, some e) ∧
        q.artifacts = p.artifacts ++ before.filterMap (Place.artifact? g directory marked) ∧
        (∀ v ∈ before.flatMap Place.visits, ∀ e,
          ¬(Generator.Kind.scss directory marked).Stops g v e) ∧
        First ((Generator.Kind.scss directory marked).Stops g) e place.visits) ∨
      ∃ q, p.run g (places.flatMap TokenGraph.modeSteps) = (q, none) ∧
        q.generator = p.generator ∧
        q.artifacts = p.artifacts ++ places.filterMap (Place.artifact? g directory marked) := by
  induction places generalizing p with
  | nil => exact .inr ⟨p, rfl, rfl, by simp⟩
  | cons place places ih =>
    rw [List.flatMap_cons, run_append_eq]
    rcases run_mode fresh place with
      ⟨q, e, stopped, kept, first⟩ | ⟨q, went, same, handed, goes⟩
    · rw [stopped]
      exact .inl ⟨q, e, [], place, places, rfl, rfl, by simp [kept], by simp, first⟩
    · rw [went]
      dsimp only
      rcases ih (same.trans fresh) with
        ⟨r, e, before, last, after, rfl, stopped, kept, go, first⟩ | ⟨r, ran, still, kept⟩
      · refine .inl ⟨r, e, place :: before, last, after, rfl, stopped, ?_, ?_, first⟩
        · rw [kept, handed]
          cases h : place.artifact? g directory marked <;> simp [h]
        · intro v hv
          rw [List.flatMap_cons, List.mem_append] at hv
          exact hv.elim (goes v) (go v)
      · refine .inr ⟨r, ran, still.trans same, ?_⟩
        rw [kept, handed]
        cases h : place.artifact? g directory marked <;> simp [h]

end Progress

/-- The walk of a generator of variables stops in the first mode with a token that it can not write,
    or leaves the generator as it was. -/
theorem Generator.run_scss_cases (g : TokenGraph) (directory : Path) (marked : Bool) :
    (∃ p e before place after, g.places = before ++ place :: after ∧
        (Generator.ofKind (.scss directory marked)).run g = (p, some e) ∧
        p.artifacts = before.filterMap (Place.artifact? g directory marked) ∧
        (∀ v ∈ before.flatMap Place.visits, ∀ e, ¬(Kind.scss directory marked).Stops g v e) ∧
        First ((Kind.scss directory marked).Stops g) e place.visits) ∨
      ∃ p, (Generator.ofKind (.scss directory marked)).run g = (p, none) ∧
        p.generator = .ofKind (.scss directory marked) ∧
        p.artifacts = g.places.filterMap (Place.artifact? g directory marked) := by
  have row : (Generator.ofKind (.scss directory marked)).run g =
      (Progress.start (.ofKind (.scss directory marked))).run g
        (g.places.flatMap TokenGraph.modeSteps) := by
    rw [run, Progress.run_moves]
    exact congrArg _ (g.filter_walk_scss directory marked)
  rw [row]
  rcases Progress.run_places (g := g) (p := .start (.ofKind (.scss directory marked))) rfl g.places
    with ⟨p, e, before, place, after, split, stopped, kept, goes, first⟩ | ⟨p, ran, still, kept⟩
  · exact .inl ⟨p, e, before, place, after, split, stopped, kept, goes, first⟩
  · exact .inr ⟨p, ran, still, kept⟩

/-- If the run succeeds, the sink has received the file of each mode that declares something, and
    the generator is as it was: run again, it hands over the same files. If it fails for a token,
    the sink has received the files of the modes before that of the first token that stops it. -/
theorem generate_scss_received (g : TokenGraph) (directory : Path) (marked : Bool)
    (answer : List Artifact → Artifact → Except FileError Outcome) :
    let kind := Generator.Kind.scss directory marked
    let ran := (generate g (.ofKind kind) (recorder answer)).run []
    (∀ report, ran.1 = .ok report →
        ran.2 = g.places.filterMap (Place.artifact? g directory marked) ∧
        ∃ p, (Generator.ofKind kind).run g = (p, none) ∧ p.generator.buffer = [] ∧
          (generate g p.generator (recorder answer)).run [] = ran ∧
          ∀ again received report',
            ((generate g p.generator (recorder again)).run received).1 = .ok report' →
            ((generate g p.generator (recorder again)).run received).2 = received ++ ran.2) ∧
      ∀ e, ran.1 = .error e → (∀ path cause, e ≠ .publish path cause) →
        ∃ before place after, g.places = before ++ place :: after ∧
          ran.2 = before.filterMap (Place.artifact? g directory marked) ∧
          (∀ v ∈ before.flatMap Place.visits, ∀ e, ¬kind.Stops g v e) ∧
          First (kind.Stops g) e place.visits := by
  intro kind ran
  refine ⟨fun report done => ?_, fun e failed walk => ?_⟩
  · obtain ⟨p, ended, received⟩ := received_of_ok done
    rcases Generator.run_scss_cases g directory marked with
      ⟨q, e, before, place, after, -, stopped, -⟩ | ⟨q, ended', fresh, handed⟩
    · cases ended.symm.trans stopped
    · cases ended.symm.trans ended'
      have whole : ran.2 = p.artifacts := received
      refine ⟨whole.trans handed, p, ended, by rw [fresh]; rfl, by rw [fresh], ?_⟩
      intro again received' report' done'
      rw [fresh] at done' ⊢
      obtain ⟨q, ended', received⟩ := received_of_ok done'
      cases ended.symm.trans ended'
      rw [received, whole]
  · obtain ⟨p, stopped, received⟩ := received_of_error failed walk
    rcases Generator.run_scss_cases g directory marked with
      ⟨q, f, before, place, after, split, stopped', handed, goes, first⟩ | ⟨q, ended, -⟩
    · cases stopped.symm.trans stopped'
      exact ⟨before, place, after, split, received.trans handed, goes, first⟩
    · cases stopped.symm.trans ended

def shades (last : TokenValue) : TokenGraph where
  collections := .ofList
    [("ink", ⟨"ink", "Ink", [⟨"l", "Light"⟩, ⟨"d", "Dark"⟩], "l", false, ["7", "main"], .empty⟩),
     ("rim", ⟨"rim", "Rim", [⟨"m", "Only"⟩], "m", false, ["main", "last"], .empty⟩)]
  tokens := .ofList
    [("7", ⟨"7", "700", "ink", .ofList [("l", some (.concrete (.boolean true)))], false, .empty⟩),
     ("main", ⟨"main", "Main", "ink",
       .ofList [("l", some (.concrete (.boolean true))), ("m", some (.concrete (.boolean false)))],
       false, .empty⟩),
     ("last", ⟨"last", "Last", "rim", .ofList [("m", some last)], false, .empty⟩)]

def inkSheet : Artifact := ⟨⟨"out/inkLight.scss"⟩, .scss, "$main: true !default;\n"⟩

theorem shades_received :
    let ran (last : TokenValue) := (generate (shades last) (.ofKind (.scss ⟨"out"⟩ true))
      (recorder fun _ _ => .ok .written)).run []
    (ran (.aliasOf "main")).2 = [inkSheet,
        ⟨⟨"out/rim.scss"⟩, .scss, "$main: false !default;\n$last: true !default;\n"⟩] ∧
      (ran (.aliasOf "last")).1 = .error (.resolve "last" (.cycle ["last", "last"])) ∧
      (ran (.aliasOf "last")).2 = [inkSheet] ∧
      (ran (.concrete (.unsupported .null))).1 = .error (.unsupported "Last" "unsupported") ∧
      (ran (.concrete (.unsupported .null))).2 = [inkSheet] := by
  intro ran
  have files : (shades (.aliasOf "main")).places.filterMap
      (Place.artifact? (shades (.aliasOf "main")) ⟨"out"⟩ true) = [inkSheet,
        ⟨⟨"out/rim.scss"⟩, .scss, "$main: false !default;\n$last: true !default;\n"⟩] := by
    decide +kernel
  obtain ⟨report, done⟩ : ∃ report, (ran (.aliasOf "main")).1 = .ok report :=
    ⟨⟨⟨3, 3, 0⟩, 2, 0⟩, by decide +kernel⟩
  have cycle : (ran (.aliasOf "last")).1 =
      .error (.resolve "last" (.cycle ["last", "last"])) := by decide +kernel
  have unsupported : (ran (.concrete (.unsupported .null))).1 =
      .error (.unsupported "Last" "unsupported") := by decide +kernel
  refine ⟨?_, cycle, ?_, unsupported, ?_⟩
  · rw [← files]
    exact ((generate_scss_received _ _ _ _).1 report done).1
  · decide +kernel
  · decide +kernel

end DesignTokens
