import DesignTokens.CommandLine.Commands

namespace DesignTokens

inductive Ending where
  | success
  | misused (cause : UsageError)
  | failed (cause : CommandError)

namespace UsageError

def flagName (flag : Flag) : String :=
  ((Flag.names.find? (·.2 = flag)).map Prod.fst).getD ""

def message : UsageError → String
  | unknown argument => "unexpected argument '" ++ argument ++ "'"
  | noValue flag => "a value is required for " ++ flagName flag
  | badValue flag value => "invalid value '" ++ value ++ "' for " ++ flagName flag
  | repeated flag => flagName flag ++ " cannot be used more than once"
  | noCommand => "a command is required"

end UsageError

namespace Ending

def exitCode : Ending → Nat
  | success => 0
  | misused _ => 2
  | failed cause => cause.exitCode

def complaint? : Ending → Option String
  | success => none
  | misused cause => some ("error: " ++ cause.message)
  | failed cause => some ("error: " ++ cause.message)

end Ending

namespace Program

def version : String := "tokenpress 0.1.0"

def help : String :=
  "Turn design tokens into CSS, SCSS, and a Tailwind theme\n\n" ++
  "Usage: tokenpress [OPTIONS] <COMMAND>\n\n" ++
  "Commands: " ++ ", ".intercalate (Command.names.map Prod.fst) ++ "\n" ++
  "Options: " ++ ", ".intercalate (Flag.names.map Prod.fst)

section

variable {m : Type → Type} [Monad m]

def runCommand (s : Session m) (lookup : String → Option String) (command : Command)
    (overrides : Settings.Overrides) : Run m Unit := do
  let settings ← Run.check .settings (Settings.load lookup)
  let settings ← Run.check .settings (settings.override overrides)
  command.run s settings

def run (s : Session m) (lookup : String → Option String) (arguments : List String) :
    m Ending := do
  match Arguments.parse lookup arguments with
  | .error cause => return .misused cause
  | .ok .version => do
    s.print version
    return .success
  | .ok .help => do
    s.print help
    return .success
  | .ok (.run command overrides) =>
    match ← (runCommand s lookup command overrides).run with
    | .error cause => return .failed cause
    | .ok () => return .success

end

end Program

end DesignTokens
