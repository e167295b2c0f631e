import DesignTokens.Proofs.Store.Paths
import DesignTokens.Proofs.Store.Publishing

namespace DesignTokens

namespace Artifact

def text? (a : Artifact) : Option String := (Sheet.format a.dialect a.contents).toOption

variable {a : Artifact} {text : String}

theorem text?_eq_some_iff : a.text? = some text ↔ Sheet.format a.dialect a.contents = .ok text := by
  unfold text?
  cases Sheet.format a.dialect a.contents <;> simp [Except.toOption]

theorem file?_eq : a.file? = a.text?.map (a.path, ·) := rfl

theorem outcome_eq_written_iff :
    a.outcome = .written ↔ ∃ text, Sheet.format a.dialect a.contents = .ok text := by
  simp only [← text?_eq_some_iff, outcome, file?_eq, Option.isSome_map]
  cases a.text? <;> simp

end Artifact

namespace Store

theorem get?_writeAll_file? (store : Store) (artifacts : List Artifact) (path : Path) :
    (store.writeAll (artifacts.filterMap Artifact.file?)).get? path =
      ((artifacts.filter (·.path.components = path.components)).filterMap
        Artifact.text?).getLast?.or (store.get? path) := by
  induction artifacts using List.reverseRecOn with
  | nil => rfl
  | append_singleton artifacts a ih =>
    rw [List.filterMap_append, writeAll_append, List.filter_append, List.filterMap_append]
    cases laid : a.text? with
    | none =>
      have skipped : [a].filterMap Artifact.file? = [] := by simp [Artifact.file?_eq, laid]
      have silent : ([a].filter (·.path.components = path.components)).filterMap
          Artifact.text? = [] := by
        rw [List.filterMap_eq_nil_iff]
        intro b hb
        rwa [List.mem_singleton.1 (List.mem_filter.1 hb).1]
      rw [skipped, silent, List.append_nil]
      exact ih
    | some text =>
      have written : [a].filterMap Artifact.file? = [(a.path, text)] := by
        simp [Artifact.file?_eq, laid]
      rw [written]
      change ((store.writeAll _).write a.path text).get? path = _
      rw [get?_write, ih]
      by_cases here : a.path.components = path.components
      · simp [Path.key_eq_iff, here, laid]
      · simp [Path.key_eq_iff, here, Ne.symm here]

/-- What becomes of an artifact depends on that artifact alone: it is written exactly if it can be
    laid out. A path then leads to what was last laid out for it, or to what was there. And the same
    files and outcomes come of the artifacts that can be laid out, published without the others. -/
theorem publishAll_isolated (artifacts : List Artifact) (store : Store) :
    let accepted := artifacts.filter (·.text?.isSome)
    ∃ store', (publishAll sink artifacts).run store =
        (.ok (artifacts.map Artifact.outcome), store') ∧
      (∀ a : Artifact,
        a.outcome = .written ↔ ∃ text, Sheet.format a.dialect a.contents = .ok text) ∧
      (∀ path, store'.get? path =
        ((artifacts.filter (·.path.components = path.components)).filterMap
          Artifact.text?).getLast?.or (store.get? path)) ∧
      (publishAll sink accepted).run store = (.ok (accepted.map Artifact.outcome), store') := by
  intro accepted
  have same : accepted.filterMap Artifact.file? = artifacts.filterMap Artifact.file? := by
    rw [List.filterMap_filter]
    congr 1
    funext a
    cases laid : a.text? <;> simp [Artifact.file?_eq, laid]
  refine ⟨_, publishAll_sink artifacts store, fun _ => Artifact.outcome_eq_written_iff,
    get?_writeAll_file? store artifacts, ?_⟩
  rw [publishAll_sink, same]

end Store

end DesignTokens
