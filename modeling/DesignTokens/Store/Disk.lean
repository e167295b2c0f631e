import DesignTokens.Store.Publish

/-!
Files and directories on a disk. Paths are absolute and are followed piece by piece, so that each
piece but the last has to be a directory, also before a step up to the parent. Writing a file makes
the directories above it first; those stay, even if writing fails in the end.
-/

namespace DesignTokens

abbrev Location := List (List Char)

inductive Node where
  | directory
  | file (contents : String)
  deriving DecidableEq

structure Disk where
  nodes : List (Location × Node)
  deriving DecidableEq

namespace Disk

def empty : Disk := ⟨[]⟩

def node? (disk : Disk) (loc : Location) : Option Node :=
  if loc = [] then some .directory else disk.nodes.lookup loc

def replace (loc : Location) (node : Node) : List (Location × Node) → List (Location × Node)
  | [] => [(loc, node)]
  | other :: rest => if other.1 = loc then (loc, node) :: rest else other :: replace loc node rest

def put (disk : Disk) (loc : Location) (node : Node) : Disk := ⟨replace loc node disk.nodes⟩

def files (disk : Disk) : List (Location × String) :=
  disk.nodes.filterMap fun (loc, node) =>
    match node with
    | .directory => none
    | .file contents => some (loc, contents)

/-- Where the pieces of a path lead to. Nothing need be there, but all before it has to be. -/
def follow (disk : Disk) (loc : Location) : List (List Char) → Except Refusal Location
  | [] => .ok loc
  | piece :: rest =>
    match disk.node? loc with
    | none => .error .notFound
    | some (.file _) => .error .notDirectory
    | some .directory =>
      if piece = [] ∨ piece = ['.'] then disk.follow loc rest
      else if piece = ['.', '.'] then disk.follow loc.dropLast rest
      else disk.follow (loc ++ [piece]) rest

def find (disk : Disk) (path : Path) : Except Refusal (Location × Node) := do
  let loc ← disk.follow [] (Path.pieces path.text.toList)
  match disk.node? loc with
  | none => .error .notFound
  | some node => .ok (loc, node)

def isDirectory (disk : Disk) (path : Path) : Bool :=
  match disk.find path with
  | .ok (_, .directory) => true
  | _ => false

def read (disk : Disk) (path : Path) : Except Refusal String :=
  match disk.find path with
  | .error e => .error e
  | .ok (_, .directory) => .error .isDirectory
  | .ok (_, .file contents) => .ok contents

/-- The last name of a path, if it ends in one, where the name is to be found, and whether slashes
    follow it. The way to it has to exist. -/
def entrance (disk : Disk) (path : Path) : Except Refusal (Option Location × Bool) := do
  let pieces := (Path.pieces path.text.toList).reverse
  match pieces.dropWhile (· = []) with
  | [] => .ok (none, true)
  | name :: above =>
    let loc ← disk.follow [] above.reverse
    match disk.node? loc with
    | none => .error .notFound
    | some (.file _) => .error .notDirectory
    | some .directory =>
      let final := if name = ['.'] ∨ name = ['.', '.'] then none else some (loc ++ [name])
      .ok (final, pieces.head? = some [])

def write (disk : Disk) (path : Path) (contents : String) : Except Refusal Disk := do
  match ← disk.entrance path with
  | (some loc, false) =>
    match disk.node? loc with
    | some .directory => .error .isDirectory
    | _ => .ok (disk.put loc (.file contents))
  | _ => .error .isDirectory

def makeDirectory (disk : Disk) (path : Path) : Except Refusal Disk := do
  match ← disk.entrance path with
  | (none, _) => .error .alreadyExists
  | (some loc, _) =>
    match disk.node? loc with
    | some _ => .error .alreadyExists
    | none => .ok (disk.put loc .directory)

def ensureDirectory (disk : Disk) (path : Path) : Except Refusal Unit × Disk :=
  match disk.makeDirectory path with
  | .ok disk => (.ok (), disk)
  | .error e => (if disk.isDirectory path then .ok () else .error e, disk)

def makeDirectories (disk : Disk) : List Path → Except Refusal Unit × Disk
  | [] => (.error .notFound, disk)
  | path :: above =>
    match disk.ensureDirectory path with
    | (.error .notFound, disk) =>
      match disk.makeDirectories above with
      | (.error e, disk) => (.error e, disk)
      | (.ok (), disk) => disk.ensureDirectory path
    | result => result

def fails {α : Type} (operation : String) (path : Path) (result : Except Refusal α) :
    Except FileError α :=
  result.mapError (⟨operation, path, ·⟩)

def readText (disk : Disk) (path : Path) : Except FileError String :=
  fails "fs_store.read" path (disk.read path)

def makeRoom (disk : Disk) (path : Path) : Except FileError Unit × Disk :=
  match path.parent? with
  | none => (.ok (), disk)
  | some directory =>
    let (result, disk) := disk.makeDirectories directory.ancestors
    (fails "fs_store.create_parent" directory result, disk)

def writeText (disk : Disk) (path : Path) (contents : String) : Except FileError Unit × Disk :=
  match disk.makeRoom path with
  | (.error e, disk) => (.error e, disk)
  | (.ok (), disk) =>
    match disk.write path contents with
    | .error e => (.error ⟨"fs_store.write", path, e⟩, disk)
    | .ok disk => (.ok (), disk)

def addAll (disk : Disk) (directory : Path) (files : List (String × String)) : Disk :=
  files.foldl (fun disk (name, contents) =>
    let path := directory.join ⟨name⟩
    if name.toList.getLast? = some '/' then (disk.makeDirectories path.ancestors).2
    else (disk.writeText path contents).2) disk

def filesBelow (disk : Disk) (above : Location) : List (String × String) :=
  let found := disk.files.filterMap fun (loc, contents) =>
    if above.isPrefixOf loc then
      some (String.ofList (List.intercalate ['/'] (loc.drop above.length)), contents)
    else none
  found.mergeSort fun a b => a.1 ≤ b.1

def sink (directory : Path) : Sink (StateM Disk) :=
  publisher fun path text => modifyGet fun disk => disk.writeText (directory.join path) text

end Disk

end DesignTokens
