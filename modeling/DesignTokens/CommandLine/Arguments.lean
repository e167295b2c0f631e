import DesignTokens.Settings.Load
import DesignTokens.Settings.LogFormat

/-!
The arguments of the command line: flags, one command, flags again. A flag may be given once before
the command and once behind it; the one behind it counts. Generators alone may be given several
times, and in one argument with commas.
-/

namespace DesignTokens

inductive Command where
  | fetch
  | generate
  | tailwind
  | all
  deriving DecidableEq

inductive Flag where
  | logLevel
  | logFormat
  | variablesFile
  | cssFile
  | scssDirectory
  | tailwindDirectory
  | generators
  | scssDefault
  deriving DecidableEq

namespace Command

def names : List (String × Command) :=
  [("fetch", fetch), ("generate", generate), ("tailwind", tailwind), ("all", all)]

end Command

namespace Flag

def names : List (String × Flag) :=
  [("--log-level", logLevel), ("--log-format", logFormat), ("--variables-file", variablesFile),
   ("--css-file", cssFile), ("--scss-dir", scssDirectory), ("--tailwind-dir", tailwindDirectory),
   ("--generators", generators), ("--scss-default", scssDefault)]

end Flag

inductive UsageError where
  | unknown (argument : String)
  | noValue (flag : Flag)
  | badValue (flag : Flag) (value : String)
  | repeated (flag : Flag)
  | noCommand
  deriving DecidableEq

structure Flags where
  logLevel : Option String
  logFormat : Option LogFormat
  variablesFile : Option Path
  cssFile : Option Path
  scssDirectory : Option Path
  tailwindDirectory : Option Path
  generators : List GeneratorName
  scssDefault : Option Bool
  deriving DecidableEq

namespace Flags

def none : Flags := ⟨.none, .none, .none, .none, .none, .none, [], .none⟩

def first {α : Type} (flag : Flag) (value : String) (read : Option α) :
    Option α → Except UsageError (Option α)
  | some _ => .error (.repeated flag)
  | .none =>
    match read with
    | some a => .ok (some a)
    | .none => .error (.badValue flag value)

def path? (value : String) : Option Path := if value = "" then .none else some ⟨value⟩

def bool? (value : String) : Option Bool :=
  if value = "true" then some true else if value = "false" then some false else .none

def generators? (value : String) : Option (List GeneratorName) :=
  (value.toList.splitOn ',').mapM fun name => (GeneratorName.parse (.ofList name)).toOption

def set (f : Flags) (flag : Flag) (value : String) : Except UsageError Flags := do
  match flag with
  | .logLevel => return { f with logLevel := ← first flag value (some value) f.logLevel }
  | .logFormat =>
    return { f with logFormat := ← first flag value (LogFormat.parse? value) f.logFormat }
  | .variablesFile =>
    return { f with variablesFile := ← first flag value (path? value) f.variablesFile }
  | .cssFile => return { f with cssFile := ← first flag value (path? value) f.cssFile }
  | .scssDirectory =>
    return { f with scssDirectory := ← first flag value (path? value) f.scssDirectory }
  | .tailwindDirectory =>
    return { f with tailwindDirectory := ← first flag value (path? value) f.tailwindDirectory }
  | .generators =>
    match generators? value with
    | some names => return { f with generators := f.generators ++ names }
    | .none => .error (.badValue flag value)
  | .scssDefault => return { f with scssDefault := ← first flag value (bool? value) f.scssDefault }

/-- Flags behind the command, and for what they leave open those in front of it. -/
def orElse (inner outer : Flags) : Flags where
  logLevel := inner.logLevel <|> outer.logLevel
  logFormat := inner.logFormat <|> outer.logFormat
  variablesFile := inner.variablesFile <|> outer.variablesFile
  cssFile := inner.cssFile <|> outer.cssFile
  scssDirectory := inner.scssDirectory <|> outer.scssDirectory
  tailwindDirectory := inner.tailwindDirectory <|> outer.tailwindDirectory
  generators := if inner.generators = [] then outer.generators else inner.generators
  scssDefault := inner.scssDefault <|> outer.scssDefault

def overrides (f : Flags) : Settings.Overrides where
  variablesFile := f.variablesFile
  cssFile := f.cssFile
  scssDirectory := f.scssDirectory
  tailwindDirectory := f.tailwindDirectory
  generators := if f.generators = [] then .none else some f.generators
  scssDefault := f.scssDefault

end Flags

inductive Invocation where
  | run (command : Command) (overrides : Settings.Overrides)
  | version
  | help
  deriving DecidableEq

namespace Arguments

/-- What ends a sequence of flags: the last argument, a command with the arguments behind it, or a
    question that is answered at once. -/
inductive Stop where
  | finished
  | command (command : Command) (rest : List String)
  | version
  | help
  deriving DecidableEq

def looksLikeFlag (argument : String) : Bool :=
  argument.toList.head? = some '-' && argument ≠ "-"

def splitFlag (argument : String) : String × Option String :=
  let s := argument.toList
  match s.dropWhile (· ≠ '=') with
  | [] => (argument, none)
  | _ :: value => (.ofList (s.takeWhile (· ≠ '=')), some (.ofList value))

/-- The question that a flag asks. `outer` says that it stands in front of the command. -/
def question? (outer : Bool) (argument : String) : Option Stop :=
  match argument.toList with
  | ['-', '-'] => none
  | '-' :: '-' :: _ =>
    if argument = "--help" then some .help
    else if outer ∧ argument = "--version" then some .version
    else none
  | '-' :: c :: _ => if c = 'h' then some .help else if outer ∧ c = 'V' then some .version else none
  | _ => none

def commandStop (argument : String) (rest : List String) : Except UsageError Stop :=
  match Command.names.lookup argument with
  | some command => .ok (.command command rest)
  | none =>
    if argument = "help" then
      match rest with
      | [] => .ok .help
      | [about] =>
        if (Command.names.lookup about).isSome ∨ about = "help" then .ok .help
        else .error (.unknown about)
      | _ :: more :: _ => .error (.unknown more)
    else .error (.unknown argument)

def readFlags (outer : Bool) (flags : Flags) (arguments : List String) :
    Except UsageError (Flags × Stop) :=
  match arguments with
  | [] => .ok (flags, .finished)
  | argument :: rest =>
    if argument = "--" then
      match rest with
      | [] => .ok (flags, .finished)
      | next :: _ => .error (.unknown next)
    else if looksLikeFlag argument then
      let (name, attached) := splitFlag argument
      match Flag.names.lookup name, attached with
      | some flag, some value => do readFlags outer (← flags.set flag value) rest
      | some flag, none =>
        match rest with
        | [] => .error (.noValue flag)
        | value :: rest =>
          if looksLikeFlag value then .error (.noValue flag)
          else do readFlags outer (← flags.set flag value) rest
      | none, _ =>
        match question? outer argument with
        | some stop => .ok (flags, stop)
        | none => .error (.unknown argument)
    else if outer then (commandStop argument rest).map (flags, ·)
    else .error (.unknown argument)
  termination_by arguments.length

/-- A log format in the environment has to be one wherever no flag gives another. -/
def checkLogFormat (lookup : String → Option String) (outer inner : Flags) :
    Except UsageError Unit :=
  match lookup "TOKENPRESS_LOG_FORMAT" with
  | none => .ok ()
  | some value =>
    if (outer.logFormat.isSome ∧ inner.logFormat.isSome) ∨ (LogFormat.parse? value).isSome then
      .ok ()
    else .error (.badValue .logFormat value)

def parse (lookup : String → Option String) (arguments : List String) :
    Except UsageError Invocation := do
  let (outer, stop) ← readFlags true .none arguments
  match stop with
  | .version => return .version
  | .help => return .help
  | .finished => .error .noCommand
  | .command command rest =>
    let (inner, stop) ← readFlags false .none rest
    match stop with
    | .finished =>
      checkLogFormat lookup outer inner
      return .run command (inner.orElse outer).overrides
    | _ => return .help

end Arguments

end DesignTokens
