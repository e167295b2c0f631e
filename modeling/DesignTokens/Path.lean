/-!
File paths. A path is a text; paths are compared by their components, so that repeated or final
slashes and inner dots make no difference, while a step up to the parent does.
-/

namespace DesignTokens

structure Path where
  text : String
  deriving DecidableEq, Inhabited

namespace Path

inductive Component where
  | root
  | current
  | parent
  | normal (name : List Char)
  deriving DecidableEq

def pieces (s : List Char) : List (List Char) := s.splitOn '/'

def isAbsolute (p : Path) : Bool := p.text.toList.head? = some '/'

def component : List Char → Component
  | ['.', '.'] => .parent
  | name => .normal name

/-- A dot counts as a component only where a relative path begins with it. -/
def components (p : Path) : List Component :=
  let all := pieces p.text.toList
  let named := (all.filter fun piece => piece ≠ [] ∧ piece ≠ ['.']).map component
  if p.isAbsolute then .root :: named
  else if all.head? = some ['.'] then .current :: named
  else named

def Component.key : Component → List Nat
  | root => [0]
  | current => [1]
  | parent => [2]
  | normal name => 3 :: name.map Char.toNat

def key (p : Path) : List (List Nat) := p.components.map Component.key

/-- The path `right` as seen from `left`. An absolute path stays as it is. -/
def join (left right : Path) : Path :=
  if right.isAbsolute then right
  else if left.text = "" ∨ left.text.toList.getLast? = some '/' then ⟨left.text ++ right.text⟩
  else ⟨left.text ++ "/" ++ right.text⟩

/-- Leaves out the pieces at the end that are no components, at least up to `first`. -/
def dropIdle : List (List Char) → List (List Char)
  | [] => []
  | piece :: rest => if piece = [] ∨ piece = ['.'] then dropIdle rest else piece :: rest

/-- The path without its last component; a path without components, or with the root alone, has no
    parent. -/
def parent? (p : Path) : Option Path :=
  match p.components.getLast? with
  | none | some .root => none
  | some .current => some ⟨""⟩
  | some _ =>
    let all := pieces p.text.toList
    let kept := dropIdle (dropIdle all.reverse).tail
    match kept.reverse with
    | [] => some ⟨if p.isAbsolute then "/" else if all.head? = some ['.'] then "." else ""⟩
    | pieces => some ⟨String.ofList (List.intercalate ['/'] pieces)⟩

def ancestorsFrom : Nat → Path → List Path
  | 0, p => [p]
  | steps + 1, p => p :: (p.parent?.map (ancestorsFrom steps)).getD []

def ancestors (p : Path) : List Path := ancestorsFrom p.components.length p

def dropNames : Nat → List (List Char) → List (List Char)
  | 0, pieces => pieces
  | _ + 1, [] => []
  | n + 1, piece :: rest =>
    if piece = [] ∨ piece = ['.'] then dropNames (n + 1) rest else dropNames n rest

/-- The path as seen from a directory above it. Both are absolute. -/
def below? (p directory : Path) : Option Path :=
  if directory.components.isPrefixOf p.components then
    let rest := dropNames (directory.components.length - 1) (pieces p.text.toList)
    let trimmed := (dropIdle (dropIdle rest).reverse).reverse
    some ⟨String.ofList (List.intercalate ['/'] trimmed)⟩
  else none

end Path

end DesignTokens
