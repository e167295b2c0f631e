import DesignTokens.Artifact
import DesignTokens.Graph.Resolve
import DesignTokens.Literal
import DesignTokens.Naming

/-!
The two ways to write tokens. A stylesheet of custom properties is one file for the whole graph; a
set of variables is one file for each mode of a collection. Both collect lines first and hand out
a file when the part of the graph that belongs to it has been walked.
-/

namespace DesignTokens

inductive Generator.Kind where
  | css (path : Path)
  | scss (directory : Path) (marked : Bool)
  deriving DecidableEq

structure Generator where
  kind : Generator.Kind
  buffer : List String
  deriving DecidableEq

structure Place where
  collection : Collection
  mode : Mode
  deriving DecidableEq

inductive GenerationError where
  | unsupported (name kind : String)
  | resolve (token : String) (cause : ResolveError)
  | publish (path : Path) (cause : FileError)
  deriving DecidableEq

def GenerationError.message : GenerationError → String
  | unsupported .. => "unsupported value for target syntax"
  | resolve .. => "failed to resolve variable"
  | publish .. => "failed to publish artifact"

inductive Boundary where
  | mode (place : Place)
  | collection (c : Collection)
  | graph

namespace Place

/-- The name of a token's custom property: the words of the collection, of the mode if there are
    several, and of the token, behind two dashes. -/
def property (place : Place) (token : String) : String :=
  let mode := if place.collection.hasModes then Naming.kebab place.mode.name else ""
  let segments := [Naming.kebab place.collection.name, mode, Naming.kebab token]
  "--" ++ "-".intercalate (segments.filter (· ≠ ""))

def file (place : Place) : String :=
  let mode :=
    if place.collection.hasModes then Naming.capitalize (Naming.camel place.mode.name) else ""
  Naming.camel place.collection.name ++ mode ++ ".scss"

end Place

namespace Generator

def ofKind (kind : Kind) : Generator := ⟨kind, []⟩

def label (g : Generator) : String :=
  match g.kind with
  | .css _ => "css"
  | .scss .. => "scss"

/-- The line that declares a token. A custom property without a literal has an empty value; a
    variable without one is an error, unless its name is none. -/
def declaration (g : Generator) (place : Place) (token : String) (value : Concrete) :
    Except GenerationError (Option String) :=
  match g.kind with
  | .css _ =>
    .ok (some (place.property token ++ ": " ++ (value.literal? .css).getD "" ++ ";"))
  | .scss _ marked =>
    if Naming.isNumeric token then .ok none
    else
      match value.literal? .scss with
      | none => .error (.unsupported token value.kind)
      | some literal =>
        .ok (some ("$" ++ Naming.camel token ++ ": " ++ literal ++
          (if marked then " !default" else "") ++ ";"))

def append (g : Generator) (line : String) : Generator := { g with buffer := g.buffer ++ [line] }

def body (g : Generator) : String :=
  "\n".intercalate (g.buffer.filter fun line => !Text.allBlank line)

/-- What is handed out at a boundary. Whoever hands out a file, or has none to hand out for lack of
    lines, starts anew. -/
def close (g : Generator) : Boundary → Option Artifact × Generator
  | .mode place =>
    match g.kind with
    | .css _ => (none, g)
    | .scss directory _ =>
      (if g.body = "" then none else some ⟨directory.join ⟨place.file⟩, .scss, g.body ++ "\n"⟩,
        { g with buffer := [] })
  | .collection _ => (none, g)
  | .graph =>
    match g.kind with
    | .css path =>
      (some ⟨path, .css, ":root \x7b\n" ++ g.body ++ "\n\x7d\n"⟩, { g with buffer := [] })
    | .scss .. => (none, g)

end Generator

end DesignTokens
