import DesignTokens.CommandLine.Program

namespace DesignTokens.Main

def refusal (e : IO.Error) : Refusal :=
  match e with
  | .noFileOrDirectory .. | .noSuchThing .. => .notFound
  | .alreadyExists .. => .alreadyExists
  | e => .other (toString e)

def attempt {α : Type} (operation : String) (path : Path) (action : IO α) :
    IO (Except FileError α) := do
  match ← action.toBaseIO with
  | .ok a => return .ok a
  | .error e => return .error ⟨operation, path, refusal e⟩

def write (path : Path) (contents : String) : IO (Except FileError Unit) := do
  let room ← match path.parent? with
    | some ⟨directory⟩ =>
      attempt "fs_store.create_parent" ⟨directory⟩
        (if directory = "" then pure () else IO.FS.createDirAll directory)
    | none => pure (.ok ())
  match room with
  | .error e => return .error e
  | .ok () => attempt "fs_store.write" path (IO.FS.writeFile path.text contents)

def session : Session IO where
  read path := attempt "fs_store.read" path (IO.FS.readFile path.text)
  write := write
  ask _ := pure (.error "no connection")
  print line := IO.println line

def environment : IO (List (String × String)) := do
  let names := "TOKENPRESS_LOG_FORMAT" ::
    [Settings.Key.accessToken, .fileId, .apiUrl, .placeholder, .variablesFile, .cssFile,
     .scssDirectory, .tailwindDirectory, .scssDefault, .generators, .timeout].map Settings.Key.name
  let values ← names.mapM fun name => do return (← IO.getEnv name).map (name, ·)
  return values.filterMap id

def run (arguments : List String) : IO UInt32 := do
  let vars ← environment
  let ending ← Program.run session (vars.lookup ·) arguments
  if let some complaint := ending.complaint? then IO.eprintln complaint
  return ending.exitCode.toUInt32

end DesignTokens.Main

def main (arguments : List String) : IO UInt32 := DesignTokens.Main.run arguments
