import DesignTokens.Theme.Declaration

namespace DesignTokens

structure Section where
  name : String
  items : List Declaration
  deriving DecidableEq

namespace Section

def push (s : Section) (d : Declaration) : Section := { s with items := s.items ++ [d] }

def extend (s : Section) (ds : List Declaration) : Section := { s with items := s.items ++ ds }

def remove (s : Section) (name : String) : Section × Nat :=
  let kept := s.items.filter (·.name ≠ name)
  ({ s with items := kept }, s.items.length - kept.length)

def clear (s : Section) : Section := { s with items := [] }

end Section

def claim (m : Matcher) (pool : List Declaration) : List Declaration × List Declaration :=
  pool.partition (·.isSelectedBy m)

/-- The shares of several matchers, each of which selects from what those before it have left, and
    what all of them leave. -/
def claimAll : List Matcher → List Declaration → List (List Declaration) × List Declaration
  | [], pool => ([], pool)
  | m :: ms, pool =>
    let (share, left) := claim m pool
    let (shares, left) := claimAll ms left
    (share :: shares, left)

end DesignTokens
