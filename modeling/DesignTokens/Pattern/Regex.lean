import DesignTokens.Pattern.CharSet

/-!
Regular expressions and their normal form. The normal form has no groups but those that are
captured; a choice between single characters, or between sets of them, is one set; and what all
alternatives begin with stands once in front of them. There it is matched before a choice is made,
so it is the normal form that decides which match is preferred.
-/

namespace DesignTokens

inductive Regex where
  | empty
  | one (set : CharSet)
  | atStart
  | atEnd
  | group (label : Option Nat) (a : Regex)
  | seq (a b : Regex)
  | alt (a b : Regex)
  | repeated (a : Regex) (least : Nat) (most : Option Nat) (greedy : Bool)
  deriving DecidableEq

namespace Regex

def all : List Regex → Regex
  | [] => empty
  | [a] => a
  | a :: rest => seq a (all rest)

def any : List Regex → Regex
  | [] => one .nothing
  | [a] => a
  | a :: rest => alt a (any rest)

def chars (text : String) : List Regex := text.toList.map fun c => one (.single c)

def plus (a : Regex) : Regex := repeated a 1 none true

def optional (a : Regex) : Regex := repeated a 0 (some 1) true

def factors : Regex → List Regex
  | empty => []
  | seq a b => factors a ++ factors b
  | a => [a]

def choices : Regex → List Regex
  | alt a b => choices a ++ choices b
  | a => [a]

def depthIn (sequence choice : Bool) : Regex → Nat
  | empty | one _ | atStart | atEnd => 0
  | group _ a | repeated a _ _ _ => depthIn false false a + 1
  | seq a b => max (depthIn true false a) (depthIn true false b) + (if sequence then 0 else 1)
  | alt a b => max (depthIn false true a) (depthIn false true b) + (if choice then 0 else 1)

def depth (a : Regex) : Nat := depthIn false false a

def size : Regex → Nat
  | empty => 0
  | one _ | atStart | atEnd => 1
  | group _ a => size a + 1
  | seq a b => size a + size b
  | alt a b => size a + size b + 1
  | repeated a least most _ => (size a + 1) * max 1 (most.getD least)

def same : Regex → Regex → Bool
  | one s, one t => s.ranges = t.ranges
  | group l a, group m b => l = m && same a b
  | seq a b, seq c d => same a c && same b d
  | alt a b, alt c d => same a c && same b d
  | repeated a l m g, repeated b l' m' g' => same a b && l = l' && m = m' && g = g'
  | a, b => a = b

def shared : List Regex → List Regex → List Regex
  | a :: as, b :: bs => if same a b then a :: shared as bs else []
  | _, _ => []

def sharedByAll : List (List Regex) → List Regex
  | [] => []
  | [a] => a
  | a :: rest => shared a (sharedByAll rest)

def set? : Regex → Option CharSet
  | one set => some set
  | _ => none

/-- A choice. Alternatives that are all characters, or all sets of several, are one set. -/
def unite (alternatives : List Regex) : Regex :=
  match alternatives.mapM set? with
  | some sets =>
    if sets.all CharSet.isSingle || !sets.any CharSet.isSingle then one (.unions sets)
    else any alternatives
  | none => any alternatives

def choice (alternatives : List Regex) : Regex :=
  match alternatives with
  | [a] => a
  | _ =>
    let sequences := alternatives.map factors
    let front := sharedByAll sequences
    if front.isEmpty || sequences.any (·.length < 2) then unite alternatives
    else
      let rests := sequences.flatMap fun s => choices (all (s.drop front.length))
      all (front ++ factors (unite rests))

def isThin : Regex → Bool
  | empty | atStart | atEnd => true
  | one _ => false
  | group _ a | repeated a _ _ _ => isThin a
  | seq a b | alt a b => isThin a && isThin b

def times (a : Regex) (least : Nat) (most : Option Nat) (greedy : Bool) : Regex :=
  let (least, most) := if isThin a then (min least 1, some (min (most.getD 1) 1)) else (least, most)
  if most = some 0 then empty
  else if least = 1 ∧ most = some 1 then a
  else repeated a least most greedy

def normalChoices : Regex → List Regex
  | group none a => choices (choice (normalChoices a))
  | group label a => [group label (choice (normalChoices a))]
  | seq a b => choices (all (factors (choice (normalChoices a)) ++
      factors (choice (normalChoices b))))
  | alt a b => normalChoices a ++ normalChoices b
  | repeated a least most greedy => choices (times (choice (normalChoices a)) least most greedy)
  | a => [a]

def normal (a : Regex) : Regex := choice (normalChoices a)

end Regex

end DesignTokens
