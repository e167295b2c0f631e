import DesignTokens.Number.Decimal
import DesignTokens.Url.Encode

/-!
Addresses in normal form: a scheme, the authority behind two slashes if there is one, a path, a
query and a fragment.
-/

namespace DesignTokens

structure Authority where
  user : List Char
  host : List Char
  port : Option Nat
  deriving DecidableEq

structure Url where
  scheme : List Char
  authority : Option Authority
  path : List Char
  query : Option (List Char)
  fragment : Option (List Char)
  deriving DecidableEq

namespace Authority

def namesUser (a : Authority) : Bool :=
  let name := a.user.takeWhile (· ≠ ':')
  let password := (a.user.dropWhile (· ≠ ':')).drop 1
  match Url.decode? name with
  | none => false
  | some name => !name.isEmpty || (!password.isEmpty && (Url.decode? password).isSome)

def render (a : Authority) : List Char :=
  let user := if a.user.isEmpty then [] else a.user ++ ['@']
  let port := match a.port with
    | none => []
    | some port => ':' :: Number.digitsOfNat port
  "//".toList ++ user ++ a.host ++ port

end Authority

namespace Url

def knownSchemes : List (List Char × Option Nat) :=
  [("http".toList, some 80), ("https".toList, some 443), ("ws".toList, some 80),
   ("wss".toList, some 443), ("ftp".toList, some 21), ("file".toList, none)]

def isKnown (scheme : List Char) : Bool := (knownSchemes.lookup scheme).isSome

def usualPort? (scheme : List Char) : Option Nat := (knownSchemes.lookup scheme).join

def withoutUser (u : Url) : Url :=
  { u with authority := u.authority.map fun a => if a.namesUser then { a with user := [] } else a }

def host (u : Url) : List Char := (u.authority.map (·.host)).getD []

def marked (mark : Char) : Option (List Char) → List Char
  | none => []
  | some s => mark :: s

def target (u : Url) : List Char := u.path ++ marked '?' u.query

/-- Between scheme and path. A path that begins with two slashes is kept from reading as an
    authority. -/
def front (u : Url) : List Char :=
  match u.authority with
  | some a => a.render
  | none => if "//".toList.isPrefixOf u.path then "/.".toList else []

def render (u : Url) : List Char :=
  u.scheme ++ ':' :: u.front ++ u.target ++ marked '#' u.fragment

end Url

end DesignTokens
