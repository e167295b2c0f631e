import DesignTokens.Proofs.Generate.Recorder
import DesignTokens.Proofs.Generate.Visits

namespace DesignTokens

def TokenGraph.stylesheet (g : TokenGraph) (path : Path) : Artifact :=
  let line (e : Emission) : String :=
    e.place.property e.token.name ++ ": " ++ (e.value.literal? .css).getD "" ++ ";"
  ⟨path, .css, ":root \x7b\n" ++ "\n".intercalate (g.emissions.map line) ++ "\n\x7d\n"⟩

variable {g : TokenGraph} {path : Path}

theorem Generator.run_css_stylesheet {p : Progress}
    (taken : (Generator.ofKind (.css path)).run g = (p, none)) :
    p.artifacts = [g.stylesheet path] := by
  obtain ⟨-, artifacts⟩ := run_css taken
  have lines : (g.emissions.map Emission.declaration).map Declaration.render =
      g.emissions.map fun e =>
        e.place.property e.token.name ++ ": " ++ (e.value.literal? .css).getD "" ++ ";" := by
    rw [List.map_map]
    rfl
  rw [artifacts, inRoot, inBlock, renderLines, lines]
  simp [TokenGraph.stylesheet, String.append_assoc]

/-- The walk of a generator of custom properties stops at the first token whose aliases come back to
    themselves, with nothing handed out, and at nothing else. -/
theorem Generator.run_css_cases (g : TokenGraph) (path : Path) :
    (∃ p e, (Generator.ofKind (.css path)).run g = (p, some e) ∧ p.artifacts = [] ∧
        First (Visit.Cycles g) e g.visits) ∨
      ∃ p, (Generator.ofKind (.css path)).run g = (p, none) ∧
        p.artifacts = [g.stylesheet path] ∧ ∀ v ∈ g.visits, ∀ e, ¬v.Cycles g e := by
  have row : (Generator.ofKind (.css path)).run g =
      (Progress.start (.ofKind (.css path))).run g
        (g.visits.map Visit.step ++ [.close .graph]) := by
    rw [run, Progress.run_moves]
    exact congrArg _ (g.filter_walk_css path)
  rcases Progress.run_visits g (.start (.ofKind (.css path))) g.visits with
    ⟨p, e, stopped, kept, first⟩ | ⟨p, went, -, goes⟩
  · refine .inl ⟨p, e, ?_, kept, first⟩
    rw [row, Progress.run_append_eq, stopped]
  · obtain ⟨q, ended⟩ : ∃ q, (Generator.ofKind (.css path)).run g = (q, none) := by
      rw [row, Progress.run_append_eq, went]
      exact ⟨_, rfl⟩
    exact .inr ⟨q, ended, run_css_stylesheet ended, goes⟩

theorem generate_css_cases (g : TokenGraph) (path : Path)
    (answer : List Artifact → Artifact → Except FileError Outcome) :
    (∃ e, (generate g (.ofKind (.css path)) (recorder answer)).run [] = (.error e, []) ∧
        First (Visit.Cycles g) e g.visits) ∨
      (∀ v ∈ g.visits, ∀ e, ¬v.Cycles g e) ∧
        ((∃ report, (generate g (.ofKind (.css path)) (recorder answer)).run [] =
            (.ok report, [g.stylesheet path])) ∨
          ∃ cause, answer [] (g.stylesheet path) = .error cause ∧
            (generate g (.ofKind (.css path)) (recorder answer)).run [] =
              (.error (.publish path cause), [g.stylesheet path])) := by
  rcases Generator.run_css_cases g path with
    ⟨p, e, stopped, nothing, first⟩ | ⟨p, ended, whole, goes⟩
  · refine .inl ⟨e, ?_, first⟩
    rcases generate_recorder stopped answer [] with ⟨_, ran⟩ | ⟨before, a, after, -, split, -, -⟩
    · rw [ran, nothing]
      rfl
    · simp [nothing] at split
  · refine .inr ⟨goes, ?_⟩
    rcases generate_recorder ended answer [] with
      ⟨_, ran⟩ | ⟨before, a, after, cause, split, refused, ran⟩
    · exact .inl ⟨_, by rw [ran, whole]; rfl⟩
    · rw [whole] at split
      obtain ⟨rfl, rfl, -⟩ : before = [] ∧ a = g.stylesheet path ∧ after = [] := by
        cases before <;> simp_all
      exact .inr ⟨cause, refused, ran⟩

/-- If the run succeeds, the sink has received the stylesheet and nothing else. If it fails for a
    token, the sink has received nothing: the aliases of a token come back to themselves, and it is
    the first such token of the walk. Nothing else in a graph stops the run. -/
theorem generate_css_received (g : TokenGraph) (path : Path)
    (answer : List Artifact → Artifact → Except FileError Outcome) :
    let ran := (generate g (.ofKind (.css path)) (recorder answer)).run []
    (∀ report, ran.1 = .ok report → ran.2 = [g.stylesheet path]) ∧
      (∀ token cause, ran.1 = .error (.resolve token cause) →
        ran.2 = [] ∧ First (Visit.Cycles g) (.resolve token cause) g.visits) ∧
      ((∃ token cause, ran.1 = .error (.resolve token cause)) ↔
        ∃ v ∈ g.visits, ∃ e, v.Cycles g e) ∧
      ((∀ v ∈ g.visits, ∀ e, ¬v.Cycles g e) →
        (∃ report, ran.1 = .ok report) ∨ ∃ cause, answer [] (g.stylesheet path) = .error cause ∧
          ran.1 = .error (.publish path cause)) := by
  intro ran
  rcases generate_css_cases g path answer with
    ⟨e, failed, first⟩ | ⟨goes, ⟨report, done⟩ | ⟨cause, refused, failed⟩⟩
  · have failed : ran = (.error e, []) := failed
    obtain ⟨v, hv, cycles⟩ := first.exists_mem
    obtain ⟨token, chain, -, -, rfl⟩ := id cycles
    rw [failed]
    refine ⟨nofun, ?_, ⟨fun _ => ⟨v, hv, _, cycles⟩, fun _ => ⟨_, _, rfl⟩⟩,
      fun goes => absurd cycles (goes v hv _)⟩
    rintro _ _ ⟨⟩
    exact ⟨rfl, first⟩
  · have done : ran = (.ok report, [g.stylesheet path]) := done
    rw [done]
    exact ⟨fun _ _ => rfl, nofun, ⟨nofun, fun ⟨v, hv, e, cycles⟩ => absurd cycles (goes v hv e)⟩,
      fun _ => .inl ⟨report, rfl⟩⟩
  · have failed : ran = (.error (.publish path cause), [g.stylesheet path]) := failed
    rw [failed]
    exact ⟨nofun, nofun, ⟨nofun, fun ⟨v, hv, e, cycles⟩ => absurd cycles (goes v hv e)⟩,
      fun _ => .inr ⟨cause, refused, rfl⟩⟩

def flags (last : TokenValue) : TokenGraph :=
  let token (id : String) (values : List (String × Option TokenValue)) : Variable :=
    ⟨id, id, "flag", .ofList values, false, .empty⟩
  { collections := .ofList
      [("flag", ⟨"flag", "Flag", [⟨"l", "Light"⟩, ⟨"d", "Dark"⟩], "l", false,
        ["gone", "astray", "half", "last"], .empty⟩)]
    tokens := .ofList
      [("astray", token "astray" [("l", some (.aliasOf "gone")), ("d", some (.aliasOf "gone"))]),
       ("half", token "half" [("l", none), ("d", some (.concrete (.boolean true)))]),
       ("last", token "last" [("l", some last), ("d", some last)])] }

theorem flags_received :
    let ran (last : TokenValue) := (generate (flags last) (.ofKind (.css ⟨"flags.css"⟩))
      (recorder fun _ _ => .ok .written)).run []
    (ran (.aliasOf "half")).2 = [⟨⟨"flags.css"⟩, .css,
        ":root \x7b\n--flag-dark-half: true;\n\x7d\n"⟩] ∧
      (ran (.aliasOf "last")).1 = .error (.resolve "last" (.cycle ["last", "last"])) ∧
        (ran (.aliasOf "last")).2 = [] := by
  intro ran
  have sheet : (flags (.aliasOf "half")).stylesheet ⟨"flags.css"⟩ = ⟨⟨"flags.css"⟩, .css,
      ":root \x7b\n--flag-dark-half: true;\n\x7d\n"⟩ := by decide +kernel
  have done : ∃ report, (ran (.aliasOf "half")).1 = .ok report :=
    ⟨⟨⟨1, 3, 4⟩, 1, 0⟩, by decide +kernel⟩
  have stopped : (ran (.aliasOf "last")).1 =
      .error (.resolve "last" (.cycle ["last", "last"])) := by decide +kernel
  obtain ⟨report, done⟩ := done
  refine ⟨?_, stopped, ?_⟩
  · rw [← sheet]
    exact (generate_css_received _ _ _).1 report done
  · exact ((generate_css_received _ _ _).2.1 _ _ stopped).1

end DesignTokens
