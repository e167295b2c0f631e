import DesignTokens.CommandLine.Arguments
import DesignTokens.CommandLine.Session
import DesignTokens.Theme.Output
import DesignTokens.Theme.Standard

namespace DesignTokens

section

variable {m : Type → Type} [Monad m]

abbrev Run (m : Type → Type) := ExceptT CommandError m

namespace Run

def step {ε α : Type} (wrap : ε → CommandError) (x : m (Except ε α)) : Run m α :=
  ExceptT.mk (do return (← x).mapError wrap)

def check {ε α : Type} (wrap : ε → CommandError) (x : Except ε α) : Run m α :=
  ExceptT.mk (pure (x.mapError wrap))

end Run

open Run

def readError (path : Path) (maker : String) (cause : FileError) : CommandError :=
  if cause.refusal = .notFound then .noInput path maker else .reading path cause

/-- Reads the input of a command; `maker` is the command that makes it. -/
def readInput (s : Session m) (path : Path) (maker : String) : Run m String :=
  step (readError path maker) (s.read path)

def Session.sink (s : Session m) : Sink m := publisher s.write

namespace Command

def fetchSummary (path : Path) (g : TokenGraph) : String :=
  "fetched " ++ toString g.collections.size ++ " collections and " ++ toString g.tokens.size ++
    " variables into " ++ path.text

def inquire (s : Session m) (q : Question) : m (Except FetchError Reply) := do
  match q.objection? with
  | some reason => return .error (.noReply q.url reason)
  | none => return (← s.ask q).mapError (.noReply q.url)

def runFetch (s : Session m) (settings : Settings) : Run m Unit := do
  let credentials ← check .settings settings.source.credentials
  let url ← check .settings settings.source.endpoint
  let reply ← step .fetch (inquire s ⟨url, credentials.accessToken⟩)
  let g := (← check .fetch reply.graph).withoutRemote
  let path := settings.outputs.variablesFile
  match ← step (.writing path) (s.sink ⟨path, .json, g.toJson.pretty⟩) with
  | .skipped => throw (.unformatted path)
  | .written => s.print (fetchSummary path g)

def countNote (n : Nat) (what : String) : String :=
  if n = 0 then "" else ", " ++ toString n ++ " " ++ what

def generateSummary (r : Report) : String :=
  "generated " ++ toString r.tally.declarations ++ " declarations into " ++ toString r.written ++
    " artifacts" ++ countNote r.tally.skipped "tokens skipped" ++
    countNote r.tally.misses "lookup misses" ++ countNote r.notWritten "artifacts not written"

def generatorFor (settings : Settings) : GeneratorName → Generator
  | .scss => .ofKind (.scss settings.outputs.scssDirectory settings.scssDefault)
  | .css => .ofKind (.css settings.outputs.cssFile)

def runGenerate (s : Session m) (settings : Settings) : Run m Unit := do
  let path := settings.outputs.variablesFile
  let text ← readInput s path "fetch"
  match TokenGraph.parse? text with
  | none => throw (.noGraph path)
  | some g =>
    let generators := settings.generators.map (generatorFor settings)
    let report ← step .generation (generateAll g s.sink generators)
    s.print (generateSummary report)

def tailwindSummary (directory : Path) (written unbound : Nat) : String :=
  "wrote " ++ toString written ++ " tailwind artifacts into " ++ directory.text ++
    countNote unbound "unbound declarations in missing-variables.css"

def runTailwind (s : Session m) (settings : Settings) : Run m Unit := do
  let path := settings.outputs.cssFile
  let text ← readInput s path "generate"
  let ds ← check (.declarations path) (Declaration.ofSheet text)
  let theme ← check .theme (Standard.layout.assemble ds)
  let directory := settings.outputs.tailwindDirectory
  let outcomes ← step (fun (path, cause) => .writing path cause)
    (publishAll s.sink (theme.artifacts directory))
  s.print (tailwindSummary directory (outcomes.count .written) theme.unbound.length)

def run (command : Command) (s : Session m) (settings : Settings) : Run m Unit :=
  match command with
  | fetch => runFetch s settings
  | generate => runGenerate s settings
  | tailwind => runTailwind s settings
  | all => do
    runFetch s settings
    runGenerate s settings
    runTailwind s settings

end Command

end

end DesignTokens
