import DesignTokens.Proofs.Generate.Files
import Mathlib.Algebra.GroupWithZero.Nat

namespace DesignTokens

def Report.sum (reports : List Report) : Report where
  tally :=
    ⟨(reports.map (·.tally.declarations)).sum, (reports.map (·.tally.skipped)).sum,
      (reports.map (·.tally.misses)).sum⟩
  written := (reports.map Report.written).sum
  notWritten := (reports.map Report.notWritten).sum

theorem Report.sum_cons (report : Report) (reports : List Report) :
    sum (report :: reports) = report.add (sum reports) := rfl

theorem publishAll_collector (artifacts received : List Artifact) :
    (publishAll collector artifacts).run received =
      (.ok (artifacts.map fun _ => .written), received ++ artifacts) := by
  induction artifacts generalizing received with
  | nil => simp [publishAll]; rfl
  | cons a artifacts ih =>
    have taken : (collector a).run received = (.ok .written, received ++ [a]) := rfl
    rw [publishAll_taken taken, ih]
    simp [Except.map]

variable {g : TokenGraph}

theorem generate_collector (g : TokenGraph) (generator : Generator) (received : List Artifact) :
    (generate g generator collector).run received =
      (((generate g generator collector).run []).1,
        received ++ ((generate g generator collector).run []).2) := by
  obtain ⟨p, failure, walked⟩ : ∃ p failure, generator.run g = (p, failure) := ⟨_, _, rfl⟩
  -- The walk does not look at the sink; all that it makes is handed over in the end.
  have ran (received : List Artifact) : (generate g generator collector).run received =
      (failure.elim (.ok ⟨p.tally, (p.artifacts.map fun _ => Outcome.written).count .written,
        (p.artifacts.map fun _ => Outcome.written).count .skipped⟩) .error,
        received ++ p.artifacts) := by
    rw [generate, walked]
    dsimp only
    rw [StateT.run_bind, publishAll_collector]
    cases failure <;> rfl
  rw [ran, ran]
  simp

theorem all_ok_or_first_error {α β ε : Type} (run : α → Except ε β) (xs : List α) :
    (∃ ys : List β, xs.map run = ys.map .ok) ∨
      ∃ before x after e, xs = before ++ x :: after ∧ (∀ z ∈ before, ∃ y, run z = .ok y) ∧
        run x = .error e := by
  induction xs with
  | nil => exact .inl ⟨[], rfl⟩
  | cons x xs ih =>
    cases ran : run x with
    | error e => exact .inr ⟨[], x, xs, e, rfl, by simp, ran⟩
    | ok y =>
      rcases ih with ⟨ys, all⟩ | ⟨before, z, after, e, rfl, succeed, failed⟩
      · exact .inl ⟨y :: ys, by simp [ran, all]⟩
      · exact .inr ⟨x :: before, z, after, e, rfl,
          List.forall_mem_cons.2 ⟨⟨y, ran⟩, succeed⟩, failed⟩

theorem generateAll_of_ok {kinds : List Generator.Kind} {reports : List Report}
    (succeed : kinds.map (fun kind => ((generate g (.ofKind kind) collector).run []).1) =
      reports.map .ok) (received : List Artifact) :
    (generateAll g collector (kinds.map Generator.ofKind)).run received =
      (.ok (Report.sum reports),
        received ++ kinds.flatMap fun kind => ((generate g (.ofKind kind) collector).run []).2) := by
  induction kinds generalizing reports received with
  | nil =>
    rw [List.map_eq_nil_iff.1 succeed.symm]
    simp [generateAll]
    rfl
  | cons kind kinds ih =>
    cases reports with
    | nil => cases succeed
    | cons report reports =>
      obtain ⟨first, others⟩ := List.cons.inj succeed
      have first : ((generate g (.ofKind kind) collector).run []).1 = .ok report := first
      have done := generate_collector g (.ofKind kind) received
      rw [first] at done
      rw [List.map_cons, generateAll_done done, ih others, Report.sum_cons, List.flatMap_cons,
        List.append_assoc]
      rfl

theorem generateAll_of_error {before : List Generator.Kind} {kind : Generator.Kind}
    {e : GenerationError}
    (succeed : ∀ other ∈ before, ∃ report,
      ((generate g (.ofKind other) collector).run []).1 = .ok report)
    (failed : ((generate g (.ofKind kind) collector).run []).1 = .error e)
    (received : List Artifact) (after : List Generator.Kind) :
    (generateAll g collector ((before ++ kind :: after).map Generator.ofKind)).run received =
      (.error e,
        received ++ before.flatMap
            (fun other => ((generate g (.ofKind other) collector).run []).2) ++
          ((generate g (.ofKind kind) collector).run []).2) := by
  induction before generalizing received with
  | nil =>
    have ran := generate_collector g (.ofKind kind) received
    rw [failed] at ran
    rw [List.nil_append, List.map_cons, generateAll_failed ran]
    simp
  | cons other before ih =>
    obtain ⟨⟨report, first⟩, rest⟩ := List.forall_mem_cons.1 succeed
    have done := generate_collector g (.ofKind other) received
    rw [first] at done
    rw [List.cons_append, List.map_cons, generateAll_done done, ih rest, List.flatMap_cons]
    simp [Except.map]

theorem generateAll_ok_iff (g : TokenGraph) (kinds : List Generator.Kind)
    (received : List Artifact) :
    (∃ report, ((generateAll g collector (kinds.map Generator.ofKind)).run received).1 =
        .ok report) ↔
      ∀ kind ∈ kinds, ∃ report, ((generate g (.ofKind kind) collector).run []).1 = .ok report := by
  rcases all_ok_or_first_error (fun kind => ((generate g (.ofKind kind) collector).run []).1)
    kinds with ⟨reports, ok⟩ | ⟨before, kind, after, e, rfl, succeed, failed⟩
  · refine iff_of_true ⟨_, congrArg Prod.fst (generateAll_of_ok ok received)⟩ fun kind hk => ?_
    have known : ((generate g (.ofKind kind) collector).run []).1 ∈ reports.map Except.ok :=
      ok ▸ List.mem_map_of_mem hk
    obtain ⟨report, -, same⟩ := List.mem_map.1 known
    exact ⟨report, same.symm⟩
  · refine iff_of_false ?_ fun all => ?_
    · rw [generateAll_of_error succeed failed]
      rintro ⟨report, ⟨⟩⟩
    · obtain ⟨report, ran⟩ := all kind (by simp)
      cases failed.symm.trans ran

/-- Generators with one collector do what they do alone: together they succeed if and only if all do,
    with all their files in order and the sum of their reports. If not, the error is that of the
    first that fails, and the collector has the files of those before it and then its own. -/
theorem generateAll_apart (g : TokenGraph) (kinds : List Generator.Kind)
    (received : List Artifact) :
    let alone (kind : Generator.Kind) := (generate g (.ofKind kind) collector).run []
    let together := (generateAll g collector (kinds.map Generator.ofKind)).run received
    ((∃ report, together.1 = .ok report) ↔ ∀ kind ∈ kinds, ∃ report, (alone kind).1 = .ok report) ∧
      (∀ reports, kinds.map (fun kind => (alone kind).1) = reports.map .ok →
        together = (.ok (Report.sum reports),
          received ++ kinds.flatMap fun kind => (alone kind).2)) ∧
      ∀ before kind after e, kinds = before ++ kind :: after →
        (∀ other ∈ before, ∃ report, (alone other).1 = .ok report) →
        (alone kind).1 = .error e →
        together = (.error e,
          received ++ before.flatMap (fun other => (alone other).2) ++ (alone kind).2) := by
  refine ⟨generateAll_ok_iff g kinds received, fun reports succeed => ?_, ?_⟩
  · exact generateAll_of_ok succeed received
  · rintro before kind after e rfl succeed failed
    exact generateAll_of_error succeed failed received after

theorem shades_apart :
    let g := shades (.concrete (.unsupported .null))
    let kinds : List Generator.Kind := [.css ⟨"a.css"⟩, .scss ⟨"out"⟩ true, .css ⟨"b.css"⟩]
    (generateAll g collector (kinds.map Generator.ofKind)).run [] =
      (.error (.unsupported "Last" "unsupported"), [g.stylesheet ⟨"a.css"⟩, inkSheet]) := by
  intro g kinds
  have first : ∃ report, ((generate g (.ofKind (.css ⟨"a.css"⟩)) collector).run []).1 =
      .ok report := ⟨⟨⟨4, 2, 0⟩, 1, 0⟩, by decide +kernel⟩
  have second : ((generate g (.ofKind (.scss ⟨"out"⟩ true)) collector).run []).1 =
      .error (.unsupported "Last" "unsupported") := by decide +kernel
  rw [(generateAll_apart g kinds []).2.2 [.css ⟨"a.css"⟩] (.scss ⟨"out"⟩ true) [.css ⟨"b.css"⟩] _
    rfl (by simpa using first) second]
  refine congrArg (Prod.mk _) ?_
  decide +kernel

end DesignTokens
