import DesignTokens.Artifact

namespace DesignTokens

structure Store where
  files : List (Path × String)
  deriving DecidableEq

namespace Store

def empty : Store := ⟨[]⟩

def put (path : Path) (contents : String) : List (Path × String) → List (Path × String)
  | [] => [(path, contents)]
  | file :: rest =>
    match compare path.key file.1.key with
    | .lt => (path, contents) :: file :: rest
    | .eq => (file.1, contents) :: rest
    | .gt => file :: put path contents rest

def write (store : Store) (path : Path) (contents : String) : Store :=
  ⟨put path contents store.files⟩

def ofList (files : List (String × String)) : Store :=
  files.foldl (fun store (path, contents) => store.write ⟨path⟩ contents) empty

def get? (store : Store) (path : Path) : Option String :=
  (store.files.find? fun file => file.1.key = path.key).map Prod.snd

def read (store : Store) (path : Path) : Except FileError String :=
  match store.get? path with
  | some contents => .ok contents
  | none => .error ⟨"memory_store.read", path, .notFound⟩

def paths (store : Store) : List Path := store.files.map Prod.fst

end Store

end DesignTokens
