import DesignTokens.Generate.Generator
import DesignTokens.Store.Publish

/-!
Walking a graph and writing its tokens. The walk goes through collections, their modes, and the
members of the collection, each in order. A member without a record and an alias that leads nowhere
are counted; an alias that comes back to itself stops the run. What was handed out before a run
stops stays handed out.
-/

namespace DesignTokens

structure Tally where
  declarations : Nat
  skipped : Nat
  misses : Nat
  deriving DecidableEq

structure Report where
  tally : Tally
  written : Nat
  notWritten : Nat
  deriving DecidableEq

def Tally.zero : Tally := ⟨0, 0, 0⟩

def Tally.add (a b : Tally) : Tally :=
  ⟨a.declarations + b.declarations, a.skipped + b.skipped, a.misses + b.misses⟩

def Report.zero : Report := ⟨.zero, 0, 0⟩

def Report.add (a b : Report) : Report :=
  ⟨a.tally.add b.tally, a.written + b.written, a.notWritten + b.notWritten⟩

/-- A step of a walk: a member of the collection in one of its modes, or the end of a part. -/
inductive Step where
  | member (place : Place) (id : String)
  | close (boundary : Boundary)

namespace TokenGraph

def modeSteps (place : Place) : List Step :=
  place.collection.members.map (.member place) ++ [.close (.mode place)]

def collectionSteps (c : Collection) : List Step :=
  c.modes.flatMap (fun mode => modeSteps ⟨c, mode⟩) ++ [.close (.collection c)]

def walk (g : TokenGraph) : List Step :=
  g.collections.values.flatMap collectionSteps ++ [.close .graph]

end TokenGraph

structure Progress where
  generator : Generator
  artifacts : List Artifact
  tally : Tally

namespace Progress

def start (generator : Generator) : Progress := ⟨generator, [], .zero⟩

def miss (p : Progress) : Progress := { p with tally := p.tally.add ⟨0, 0, 1⟩ }

def skip (p : Progress) : Progress := { p with tally := p.tally.add ⟨0, 1, 0⟩ }

def declare (p : Progress) (line : String) : Progress :=
  { p with generator := p.generator.append line, tally := p.tally.add ⟨1, 0, 0⟩ }

def visit (g : TokenGraph) (p : Progress) (place : Place) (v : Variable) :
    Except GenerationError Progress :=
  match g.resolve v place.mode.id with
  | .ok none => .ok p.skip
  | .error cause => if cause.isMiss then .ok p.miss else .error (.resolve v.id cause)
  | .ok (some value) =>
    match p.generator.declaration place v.name value with
    | .error e => .error e
    | .ok none => .ok p.skip
    | .ok (some line) => .ok (p.declare line)

def step (g : TokenGraph) (p : Progress) : Step → Except GenerationError Progress
  | .member place id =>
    match g.token? id with
    | none => .ok p.miss
    | some v => p.visit g place v
  | .close boundary =>
    let (artifact, generator) := p.generator.close boundary
    .ok { p with generator, artifacts := p.artifacts ++ artifact.toList }

def run (g : TokenGraph) (p : Progress) : List Step → Progress × Option GenerationError
  | [] => (p, none)
  | s :: rest =>
    match p.step g s with
    | .error e => (p, some e)
    | .ok p' => run g p' rest

end Progress

namespace Generator

def run (generator : Generator) (g : TokenGraph) : Progress × Option GenerationError :=
  (Progress.start generator).run g g.walk

end Generator

section

variable {m : Type → Type} [Monad m]

/-- Runs one generator and publishes what it hands out. A file that cannot be written counts before
    an error of the walk, which comes after it. -/
def generate (g : TokenGraph) (generator : Generator) (sink : Sink m) :
    m (Except GenerationError Report) := do
  let (progress, failure) := generator.run g
  match ← publishAll sink progress.artifacts with
  | .error (path, cause) => pure (.error (.publish path cause))
  | .ok outcomes =>
    match failure with
    | some e => pure (.error e)
    | none =>
      pure (.ok ⟨progress.tally, outcomes.count .written, outcomes.count .skipped⟩)

def generateAll (g : TokenGraph) (sink : Sink m) :
    List Generator → m (Except GenerationError Report)
  | [] => pure (.ok .zero)
  | generator :: rest => do
    match ← generate g generator sink with
    | .error e => pure (.error e)
    | .ok report =>
      match ← generateAll g sink rest with
      | .error e => pure (.error e)
      | .ok total => pure (.ok (report.add total))

end

end DesignTokens
