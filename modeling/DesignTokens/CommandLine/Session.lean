import DesignTokens.CommandLine.Service
import DesignTokens.Generate.Run
import DesignTokens.Settings.Load
import DesignTokens.Theme.Error

/-!
What commands need from outside, and how they fail. All that a command does to the world goes
through a session, so that a command can be run on files in memory as well as on a disk.
-/

namespace DesignTokens

structure Session (m : Type → Type) where
  read : Path → m (Except FileError String)
  write : Path → String → m (Except FileError Unit)
  ask : Question → m (Except String Reply)
  print : String → m Unit

inductive CommandError where
  | settings (cause : Settings.Error)
  | noInput (path : Path) (maker : String)
  | fetch (cause : FetchError)
  | reading (path : Path) (cause : FileError)
  | noGraph (path : Path)
  | generation (cause : GenerationError)
  | declarations (path : Path) (cause : ThemeError)
  | theme (cause : ThemeError)
  | writing (path : Path) (cause : FileError)
  | unformatted (path : Path)

def GenerationError.explained (e : GenerationError) : String :=
  match e with
  | unsupported .. => e.message
  | resolve _ cause => e.message ++ ": " ++ cause.message
  | publish _ cause => e.message ++ ": " ++ cause.explained

namespace CommandError

/-- What the user can mend ends the program with two, all else with three. -/
def exitCode : CommandError → Nat
  | settings _ | noInput .. => 2
  | _ => 3

def message : CommandError → String
  | settings cause => cause.advice
  | noInput path maker => path.text ++ " not found; run `tokenpress " ++ maker ++ "` first"
  | fetch cause => cause.message
  | reading path cause => "failed to read " ++ path.text ++ ": " ++ cause.explained
  | noGraph path => "failed to parse " ++ path.text ++ ": failed to decode token graph"
  | generation cause => "token generation failed: " ++ cause.explained
  | declarations path cause =>
    "failed to read declarations from " ++ path.text ++ ": " ++ cause.message
  | theme cause => "failed to assemble tailwind theme: " ++ cause.message
  | writing path cause => "failed to write " ++ path.text ++ ": " ++ cause.explained
  | unformatted path => "token graph could not be formatted for " ++ path.text

end CommandError

end DesignTokens
