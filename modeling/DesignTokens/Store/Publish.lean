import DesignTokens.Sheet.Format
import DesignTokens.Store.Memory

/-!
Publishing: an artifact is laid out and written. One that cannot be laid out is skipped and leaves
no trace; a file that cannot be written stops the work.
-/

namespace DesignTokens

inductive Outcome where
  | written
  | skipped
  deriving DecidableEq

def Outcome.name : Outcome → String
  | written => "Written"
  | skipped => "Skipped"

abbrev Sink (m : Type → Type) := Artifact → m (Except FileError Outcome)

section

variable {m : Type → Type} [Monad m]

def publisher (write : Path → String → m (Except FileError Unit)) : Sink m := fun artifact =>
  match Sheet.format artifact.dialect artifact.contents with
  | .error _ => pure (.ok .skipped)
  | .ok text => do
    match ← write artifact.path text with
    | .error e => pure (.error e)
    | .ok () => pure (.ok .written)

/-- Publishes artifacts in order up to the first that cannot be written: the outcomes, or the path
    of the artifact that failed and why. -/
def publishAll (sink : Sink m) : List Artifact → m (Except (Path × FileError) (List Outcome))
  | [] => pure (.ok [])
  | artifact :: rest => do
    match ← sink artifact with
    | .error e => pure (.error (artifact.path, e))
    | .ok outcome =>
      match ← publishAll sink rest with
      | .error e => pure (.error e)
      | .ok outcomes => pure (.ok (outcome :: outcomes))

end

namespace Store

def sink : Sink (StateM Store) :=
  publisher fun path text => modifyGet fun store => (.ok (), store.write path text)

end Store

def collector : Sink (StateM (List Artifact)) := fun artifact =>
  modifyGet fun artifacts => (.ok .written, artifacts ++ [artifact])

end DesignTokens
