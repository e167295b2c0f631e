import DesignTokens.Generate.Run
import DesignTokens.Proofs.Store.Publishing

namespace DesignTokens

/-- Keeps the artifacts that it is handed, also those that it then refuses. -/
def recorder (answer : List Artifact → Artifact → Except FileError Outcome) :
    Sink (StateM (List Artifact)) := fun artifact =>
  modifyGet fun received => (answer received artifact, received ++ [artifact])

variable {answer : List Artifact → Artifact → Except FileError Outcome} {received : List Artifact}
  {a : Artifact} {artifacts : List Artifact}

theorem run_recorder (answer : List Artifact → Artifact → Except FileError Outcome)
    (a : Artifact) (received : List Artifact) :
    (recorder answer a).run received = (answer received a, received ++ [a]) := rfl

/-- All artifacts are handed over in order, up to the first that is refused. -/
theorem publishAll_recorder (answer : List Artifact → Artifact → Except FileError Outcome)
    (artifacts received : List Artifact) :
    (∃ outcomes, (publishAll (recorder answer) artifacts).run received =
        (.ok outcomes, received ++ artifacts)) ∨
      ∃ before a after cause, artifacts = before ++ a :: after ∧
        answer (received ++ before) a = .error cause ∧
          (publishAll (recorder answer) artifacts).run received =
            (.error (a.path, cause), received ++ before ++ [a]) := by
  induction artifacts generalizing received with
  | nil => exact .inl ⟨[], by simp [publishAll]; rfl⟩
  | cons a artifacts ih =>
    cases answered : answer received a with
    | error cause =>
      have refused : (recorder answer a).run received = (.error cause, received ++ [a]) :=
        answered ▸ run_recorder answer a received
      exact .inr ⟨[], a, artifacts, cause, rfl, by simpa using answered,
        by simpa using publishAll_refused refused artifacts⟩
    | ok outcome =>
      have taken : (recorder answer a).run received = (.ok outcome, received ++ [a]) :=
        answered ▸ run_recorder answer a received
      rw [publishAll_taken taken]
      rcases ih (received ++ [a]) with
        ⟨outcomes, ran⟩ | ⟨before, b, after, cause, rfl, refused, ran⟩
      · exact .inl ⟨outcome :: outcomes, by simp [ran, Except.map]⟩
      · exact .inr ⟨a :: before, b, after, cause, rfl, by simpa using refused,
          by simp [ran, Except.map]⟩

/-- What a run hands out is handed over before the run ends with its own result. -/
theorem generate_recorder {g : TokenGraph} {generator : Generator} {p : Progress}
    {failure : Option GenerationError} (walked : generator.run g = (p, failure))
    (answer : List Artifact → Artifact → Except FileError Outcome) (received : List Artifact) :
    (∃ outcomes : List Outcome, (generate g generator (recorder answer)).run received =
        ((failure.elim (.ok ⟨p.tally, outcomes.count .written, outcomes.count .skipped⟩) .error),
          received ++ p.artifacts)) ∨
      ∃ before a after cause, p.artifacts = before ++ a :: after ∧
        answer (received ++ before) a = .error cause ∧
          (generate g generator (recorder answer)).run received =
            (.error (.publish a.path cause), received ++ before ++ [a]) := by
  rw [generate, walked]
  dsimp only
  rw [StateT.run_bind]
  rcases publishAll_recorder answer p.artifacts received with
    ⟨outcomes, ran⟩ | ⟨before, a, after, cause, split, refused, ran⟩
  · refine .inl ⟨outcomes, ?_⟩
    rw [ran]
    cases failure <;> rfl
  · refine .inr ⟨before, a, after, cause, split, refused, ?_⟩
    rw [ran]
    rfl

section

variable {g : TokenGraph} {generator : Generator}

theorem received_of_ok {report : Report}
    (done : ((generate g generator (recorder answer)).run received).1 = .ok report) :
    ∃ p, generator.run g = (p, none) ∧
      ((generate g generator (recorder answer)).run received).2 = received ++ p.artifacts := by
  obtain ⟨p, failure, walked⟩ : ∃ p failure, generator.run g = (p, failure) := ⟨_, _, rfl⟩
  rcases generate_recorder walked answer received with
    ⟨outcomes, ran⟩ | ⟨before, a, after, cause, -, -, ran⟩
  · rw [ran] at done ⊢
    cases failure with
    | none => exact ⟨p, walked, rfl⟩
    | some e => cases done
  · rw [ran] at done
    cases done

theorem received_of_error {e : GenerationError}
    (failed : ((generate g generator (recorder answer)).run received).1 = .error e)
    (walk : ∀ path cause, e ≠ .publish path cause) :
    ∃ p, generator.run g = (p, some e) ∧
      ((generate g generator (recorder answer)).run received).2 = received ++ p.artifacts := by
  obtain ⟨p, failure, walked⟩ : ∃ p failure, generator.run g = (p, failure) := ⟨_, _, rfl⟩
  rcases generate_recorder walked answer received with
    ⟨outcomes, ran⟩ | ⟨before, a, after, cause, -, -, ran⟩
  · rw [ran] at failed ⊢
    cases failure with
    | none => cases failed
    | some e =>
      cases failed
      exact ⟨p, walked, rfl⟩
  · rw [ran] at failed
    cases failed
    exact absurd rfl (walk _ _)

end

end DesignTokens
