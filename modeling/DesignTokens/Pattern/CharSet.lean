import DesignTokens.Text.Blank
import DesignTokens.Text.DecimalDigit
import DesignTokens.Text.WordChar

/-!
Sets of characters, as the classes of regular expressions describe them. Two descriptions are of
one set just if their `ranges` are the same.
-/

namespace DesignTokens

inductive CharSet where
  | nothing
  | single (c : Char)
  | range (first last : Char)
  | digit
  | word
  | blank
  | complement (set : CharSet)
  | union (a b : CharSet)
  deriving DecidableEq

namespace CharSet

def contains : CharSet → Char → Bool
  | nothing, _ => false
  | single c, x => x = c
  | range first last, x => first ≤ x && x ≤ last
  | digit, x => Text.isDecimalDigit x
  | word, x => Text.isWordChar x
  | blank, x => Text.isBlank x
  | complement set, x => !set.contains x
  | union a b, x => a.contains x || b.contains x

def intersection (a b : CharSet) : CharSet := .complement (.union (.complement a) (.complement b))

def difference (a b : CharSet) : CharSet := .complement (.union (.complement a) b)

def symmetricDifference (a b : CharSet) : CharSet := .union (a.difference b) (b.difference a)

def unions (sets : List CharSet) : CharSet := sets.foldl union nothing

def ofText (text : String) : CharSet := unions (text.toList.map single)

def gaps (start : Nat) : List (Nat × Nat) → List (Nat × Nat)
  | [] => if start ≤ 0x10ffff then [(start, 0x10ffff)] else []
  | (first, last) :: rest =>
    if start < first then (start, first - 1) :: gaps (last + 1) rest else gaps (last + 1) rest

def joined (first last : Nat) : List (Nat × Nat) → List (Nat × Nat)
  | [] => [(first, last)]
  | (a, b) :: rest =>
    if a ≤ last + 1 then joined first (max last b) rest else (first, last) :: joined a b rest

def ranges : CharSet → List (Nat × Nat)
  | nothing => []
  | single c => [(c.toNat, c.toNat)]
  | range first last => [(first.toNat, last.toNat)]
  | digit => Text.digitRanges
  | word => Text.wordRanges
  | blank => Text.blankRanges
  | complement set => gaps 0 set.ranges
  | union a b =>
    match (a.ranges ++ b.ranges).mergeSort fun r t => r.1 ≤ t.1 with
    | [] => []
    | (first, last) :: rest => joined first last rest

def isSingle (set : CharSet) : Bool :=
  match set.ranges with
  | [(first, last)] => first = last
  | _ => false

end CharSet

end DesignTokens
