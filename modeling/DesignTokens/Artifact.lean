import DesignTokens.Path

namespace DesignTokens

inductive Dialect where
  | css
  | scss
  | json
  deriving DecidableEq

def Dialect.name : Dialect → String
  | css => "css"
  | scss => "scss"
  | json => "json"

def Dialect.ofName? (name : String) : Option Dialect :=
  [css, scss, json].find? (·.name = name)

/-- A text with its language and the place where it belongs. -/
structure Artifact where
  path : Path
  dialect : Dialect
  contents : String
  deriving DecidableEq

inductive Refusal where
  | notFound
  | isDirectory
  | notDirectory
  | alreadyExists
  | other (text : String)
  deriving DecidableEq

def Refusal.kind : Refusal → String
  | notFound => "NotFound"
  | isDirectory => "IsADirectory"
  | notDirectory => "NotADirectory"
  | alreadyExists => "AlreadyExists"
  | other text => text

def Refusal.message : Refusal → String
  | notFound => "No such file or directory (os error 2)"
  | isDirectory => "Is a directory (os error 21)"
  | notDirectory => "Not a directory (os error 20)"
  | alreadyExists => "File exists (os error 17)"
  | other text => text

structure FileError where
  operation : String
  path : Path
  refusal : Refusal
  deriving DecidableEq

def FileError.message (_ : FileError) : String := "fsops io failure"

def FileError.explained (e : FileError) : String := e.message ++ ": " ++ e.refusal.message

end DesignTokens
