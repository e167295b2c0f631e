import DesignTokens.Url.Basic
import DesignTokens.Url.Host

/-!
Reading addresses. Tabs and line ends do not count, nor do controls and spaces around the address.
In well-known schemes a backslash is a slash. Dots in a path are steps within it and above it, which
are taken at once.
-/

namespace DesignTokens.Url

def isLineSpace (c : Char) : Bool := c = '\t' || c = '\n' || c = '\r'

def isOutside (c : Char) : Bool := c.val ≤ 0x20

def cleaned (s : List Char) : List Char :=
  let inner := s.dropWhile isOutside
  ((inner.reverse.dropWhile isOutside).reverse).filter (!isLineSpace ·)

def isSchemeChar (c : Char) : Bool := c.isAlphanum || c = '+' || c = '-' || c = '.'

def scheme? (s : List Char) : Option (List Char × List Char) :=
  match s.takeWhile isSchemeChar, s.dropWhile isSchemeChar with
  | c :: name, ':' :: rest =>
    if c.isAlpha then some (Text.lower (c :: name), rest) else none
  | _, _ => none

def isSlash (known : Bool) (c : Char) : Bool := c = '/' || (known && c = '\\')

def endsAuthority (known : Bool) (c : Char) : Bool := isSlash known c || c = '?' || c = '#'

def cutUser? (s : List Char) : Option (List Char × List Char) :=
  match s.reverse.dropWhile (· ≠ '@') with
  | [] => none
  | _ :: before => some (before.reverse, (s.reverse.takeWhile (· ≠ '@')).reverse)

def user (s : List Char) : List Char :=
  let name := encode hiddenInUser (s.takeWhile (· ≠ ':'))
  match s.dropWhile (· ≠ ':') with
  | _ :: c :: password => name ++ ':' :: encode hiddenInUser (c :: password)
  | _ => name

def cutPort (bracket : Bool) : List Char → List Char × List Char
  | [] => ([], [])
  | c :: rest =>
    if c = ':' ∧ !bracket then ([], c :: rest)
    else
      let bracket := if c = '[' then true else if c = ']' then false else bracket
      let (before, after) := cutPort bracket rest
      (c :: before, after)

/-- The port behind a colon, and what follows its digits. None may be given, and the usual one is
    as good as none. -/
def port? (usual : Option Nat) (s : List Char) : Option (Option Nat × List Char) :=
  let digits := (s.drop 1).takeWhile Number.isDigit
  let rest := (s.drop 1).dropWhile Number.isDigit
  let n := Number.natOfDigits digits
  if 65535 < n ∨ rest.head?.any (· ≠ '\\') then none
  else some (if digits.isEmpty ∨ some n = usual then none else some n, rest)

def authority? (scheme : List Char) (more : Bool) (s : List Char) :
    Option (Authority × List Char) := do
  let known := isKnown scheme
  let (before, rest) := (cutUser? s).getD ([], s)
  if before = [] ∧ rest = [] ∧ s ≠ [] ∧ more then none
  let (name, after) := cutPort false rest
  if name = [] ∧ (known ∨ after ≠ [] ∨ user before ≠ []) then none
  let host ← host? known name
  let (port, rest) ← port? (usualPort? scheme) after
  return (⟨user before, host, port⟩, rest)

def isDot (s : List Char) : Bool :=
  let s := Text.lower s
  s = ".".toList || s = "%2e".toList

def isDoubleDot (s : List Char) : Bool :=
  ["..", ".%2e", "%2e.", "%2e%2e"].contains (String.ofList (Text.lower s))

def isDriveMark (c : Char) : Bool := c = ':' || c = '|'

def isDrive (s : List Char) : Bool :=
  match s with
  | [letter, mark] => letter.isAlpha && isDriveMark mark
  | _ => false

def beginsWithDrive (s : List Char) : Bool := isDrive (s.take 2) && (s.drop 2).head?.all (· = '\\')

/-- Takes a step above a path; no step leads above a drive. -/
def dropSegment (path : List (List Char)) : List (List Char) :=
  if path.getLast?.any beginsWithDrive then path else path.dropLast

/-- Follows the segments of a path, from `path` on. Where `drives` says so, a drive at the front is
    written with a colon. -/
def walk (drives : Bool) (path : List (List Char)) : List (List Char) → List (List Char)
  | [] => path
  | segment :: rest =>
    if isDoubleDot segment then
      let path := dropSegment path
      walk drives (if rest = [] then path ++ [[]] else path) rest
    else if isDot segment then walk drives (if rest = [] then path ++ [[]] else path) rest
    else if drives ∧ path = [] ∧ isDrive segment then
      walk drives [segment.take 1 ++ [':']] rest
    else walk drives (path ++ [segment]) rest

def segments (known : Bool) (s : List Char) : List (List Char) :=
  (s.map fun c => if isSlash known c then '/' else c).splitOn '/'

def pathOf (segments : List (List Char)) : List Char := '/' :: List.intercalate ['/'] segments

def pathBehind (known : Bool) (s : List Char) : List Char :=
  pathOf (walk false [] ((segments known s).map (encode hiddenInPath)))

def tail (known : Bool) (s : List Char) : Option (List Char) × Option (List Char) :=
  let ahead := s.takeWhile (· ≠ '#')
  let query := match ahead with
    | '?' :: query => some (encode (hiddenInQuery known) query)
    | _ => none
  let fragment := match s.dropWhile (· ≠ '#') with
    | _ :: fragment => some (encode hiddenInFragment fragment)
    | [] => none
  (query, fragment)

def isTailMark (c : Char) : Bool := c = '?' || c = '#'

def withAuthority? (scheme s : List Char) : Option Url := do
  let known := isKnown scheme
  let rest := s.dropWhile (!endsAuthority known ·)
  let (authority, more) ←
    authority? scheme (!rest.isEmpty) (s.takeWhile (!endsAuthority known ·))
  let body := rest.takeWhile (!isTailMark ·)
  let (query, fragment) := tail known (rest.dropWhile (!isTailMark ·))
  let path :=
    if !more.isEmpty then pathBehind known (more ++ body)
    else if body.isEmpty then (if known then ['/'] else [])
    else pathBehind known body.tail
  return ⟨scheme, some authority, path, query, fragment⟩

def withoutAuthority (scheme s : List Char) : Url :=
  let body := s.takeWhile (!isTailMark ·)
  let (query, fragment) := tail false (s.dropWhile (!isTailMark ·))
  let path := match body with
    | '/' :: rest => pathBehind false rest
    | _ => encode hiddenInHost body
  ⟨scheme, none, path, query, fragment⟩

def filePath (s : List Char) : List (List Char) :=
  walk true [] ((segments true s).map (encode hiddenInPath))

/-- The host of a file and its path, from what follows two slashes. The machine itself is no host,
    and a drive in front of the path is of the machine itself. Without a host the slash in front of
    the path counts as a segment. -/
def filePlace? (s : List Char) : Option (List Char × List (List Char)) := do
  let name := s.takeWhile (!isSlash true ·)
  let rest := s.dropWhile (!isSlash true ·)
  if isDrive name then return ([], filePath s)
  let host ← if name = [] then some [] else host? true name
  if host = [] ∨ host = "localhost".toList then return ([], filePath rest)
  let path := filePath rest.tail
  return (if path.head?.any isDrive then [] else host, path)

/-- The address of a file. Empty segments in front of its path are not written. -/
def file? (scheme s : List Char) : Option Url := do
  let (host, path) ←
    match s.takeWhile (!isTailMark ·) with
    | a :: b :: rest =>
      if isSlash true a ∧ isSlash true b then filePlace? rest
      else some ([], filePath (if isSlash true a then b :: rest else a :: b :: rest))
    | body => some ([], filePath body)
  let (query, fragment) := tail true (s.dropWhile (!isTailMark ·))
  return ⟨scheme, some ⟨[], host, none⟩, pathOf (path.dropWhile (· = [])), query, fragment⟩

def parse? (text : String) : Option Url := do
  let (scheme, rest) ← scheme? (cleaned text.toList)
  if scheme = "file".toList then file? scheme rest
  else if isKnown scheme then withAuthority? scheme (rest.dropWhile (isSlash true))
  else
    match rest with
    | '/' :: '/' :: rest => withAuthority? scheme rest
    | _ => return withoutAuthority scheme rest

end DesignTokens.Url
