import DesignTokens.Pattern.Regex

/-!
Matching by programs. An expression is a program that reads a text character by character and may
take several ways at once. At each place of the text the ways are kept in the order of preference,
and of two ways to one step only the preferred one: what a step leads to does not depend on the way
to it. A way that has come to the end of the program is a match, and the ways behind it are given
up. The front of a text has a preferred match, and a text has a match anywhere, in one pass.
-/

namespace DesignTokens.Regex

/-- The steps of a program. A step leads to the next unless it says otherwise. -/
inductive Step where
  | one (set : CharSet)
  | atStart
  | atEnd
  | jump (distance : Int)
  | fork (first second : Int)
  deriving DecidableEq

namespace Step

def choose (greedy : Bool) (more done : Int) : Step :=
  if greedy then fork more done else fork done more

def either (a b : List Step) : List Step :=
  fork 1 (a.length + 2) :: a ++ jump (b.length + 1) :: b

def optional (greedy : Bool) (a : List Step) : List Step := choose greedy 1 (a.length + 1) :: a

def plus (greedy : Bool) (a : List Step) : List Step := a ++ [choose greedy (-a.length) 1]

def star (greedy : Bool) (a : List Step) : List Step :=
  choose greedy 1 (a.length + 2) :: a ++ [jump (-(a.length + 1))]

def times (a : List Step) (n : Nat) : List Step := (List.replicate n a).flatten

def upTo (greedy : Bool) (a : List Step) : Nat → List Step
  | 0 => []
  | n + 1 => optional greedy (a ++ upTo greedy a n)

end Step

def consumes : Regex → Bool
  | empty | atStart | atEnd => false
  | one _ => true
  | group _ a => consumes a
  | seq a b => consumes a || consumes b
  | alt a b => consumes a && consumes b
  | repeated a least _ _ => 0 < least && consumes a

/-- The program of an expression. What may match without consuming has its first turn outside of
    its loop: no turn begins twice at one place, so an empty turn ends the loop and is not tried
    again in it. -/
def program : Regex → List Step
  | empty => []
  | one set => [.one set]
  | atStart => [.atStart]
  | atEnd => [.atEnd]
  | group _ a => program a
  | seq a b => program a ++ program b
  | alt a b => Step.either (program a) (program b)
  | repeated a least (some most) greedy =>
    Step.times (program a) least ++ Step.upTo greedy (program a) (most - least)
  | repeated a 0 none greedy =>
    if consumes a then Step.star greedy (program a)
    else Step.optional greedy (Step.plus greedy (program a))
  | repeated a (n + 1) none greedy => Step.times (program a) n ++ Step.plus greedy (program a)

/-- Steps that have been reached, in the order in which they were; `marks` has their bits. -/
structure Reached where
  steps : Array Nat
  marks : Nat

namespace Reached

def nothing : Reached := ⟨#[], 0⟩

def contains (found : Reached) (step : Nat) : Bool := found.marks.testBit step

def add (found : Reached) (step : Nat) : Reached :=
  ⟨found.steps.push step, found.marks ||| 1 <<< step⟩

/-- Adds a step and those that it leads to without reading. Those that were found before lead to
    nothing new. -/
def follow (program : Array Step) (front back : Bool) : Nat → Reached → Nat → Reached
  | 0, found, _ => found
  | fuel + 1, found, step =>
    if found.contains step then found
    else
      let go := follow program front back fuel
      let found := found.add step
      match program[step]? with
      | none | some (.one _) => found
      | some (.jump distance) => go found (step + distance).toNat
      | some (.fork first second) => go (go found (step + first).toNat) (step + second).toNat
      | some .atStart => if front then go found (step + 1) else found
      | some .atEnd => if back then go found (step + 1) else found

def reach (found : Reached) (program : Array Step) (front back : Bool) (step : Nat) : Reached :=
  follow program front back (program.size + 1) found step

def readAt (program : Array Step) (c : Char) (back : Bool) (found : Reached) (step : Nat) :
    Reached :=
  match program[step]? with
  | some (.one set) =>
    if set.contains c then found.reach program false back (step + 1) else found
  | _ => found

def read (program : Array Step) (c : Char) (back : Bool) (steps : List Nat) : Reached :=
  steps.foldl (readAt program c back) nothing

end Reached

/-- What the preferred match leaves of the text, from steps that have been reached; `best` is what
    a less preferred one leaves. -/
def run (program : Array Step) (found : Reached) (best : Option (List Char)) (s : List Char) :
    Option (List Char) :=
  let best := if found.contains program.size then some s else best
  match s with
  | [] => best
  | c :: rest =>
    let steps := found.steps.toList.takeWhile (· ≠ program.size)
    if steps.isEmpty then best
    else run program (Reached.read program c rest.isEmpty steps) best rest

def scan (program : Array Step) (found : Reached) (s : List Char) : Bool :=
  found.contains program.size ||
    match s with
    | [] => false
    | c :: rest =>
      let found := Reached.read program c rest.isEmpty found.steps.toList
      scan program (found.reach program false rest.isEmpty 0) rest

def leading? (r : Regex) (s : List Char) : Option (List Char) :=
  let program := r.program.toArray
  run program (Reached.nothing.reach program true s.isEmpty 0) none s

def isMatch (r : Regex) (s : List Char) : Bool :=
  let program := r.program.toArray
  scan program (Reached.nothing.reach program true s.isEmpty 0) s

end DesignTokens.Regex
