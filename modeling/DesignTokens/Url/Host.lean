import DesignTokens.Number.Decimal
import DesignTokens.Url.Domain.Label
import DesignTokens.Url.Encode

/-!
Hosts. The host of a well-known scheme is an address of one of the two internet protocols or a
domain, which is written in lower case and in ASCII; the host of any other scheme is a text.
-/

namespace DesignTokens.Url

def digitsIn? (base : Nat) (s : List Char) : Option Nat :=
  s.foldlM (fun n c => do
    let d ← Number.hexValue? c
    if d < base then return base * n + d else none) 0

namespace Ipv4

/-- A part of an address: decimal, octal behind a zero, hexadecimal behind a zero and an x. -/
def part? (s : List Char) : Option Nat :=
  match s with
  | [] => none
  | '0' :: 'x' :: rest | '0' :: 'X' :: rest => digitsIn? 16 rest
  | '0' :: c :: rest => digitsIn? 8 (c :: rest)
  | _ => digitsIn? 10 s

def parts (domain : List Char) : List (List Char) :=
  let all := domain.splitOn '.'
  if all.getLast? = some [] then all.dropLast else all

def isMeant (domain : List Char) : Bool :=
  match (parts domain).getLast? with
  | none | some [] => false
  | some last => last.all Number.isDigit || (part? last).isSome

def weights : List Nat := [0x1000000, 0x10000, 0x100, 1]

/-- The address as a number: the last part fills all that the others, one byte each, leave. -/
def value? (domain : List Char) : Option Nat := do
  let numbers ← (parts domain).mapM part?
  let last ← numbers.getLast?
  let bytes := numbers.dropLast
  if 4 < numbers.length ∨ bytes.any (255 < ·) then none
  let (taken, rooms) := weights.splitAt bytes.length
  if rooms.headD 0 * 256 ≤ last then none
  return (List.zipWith (· * ·) bytes taken).foldl (· + ·) last

def render (n : Nat) : List Char :=
  List.intercalate ['.'] (weights.map fun weight => Number.digitsOfNat (n / weight % 256))

def plainPart? (s : List Char) : Option Nat := do
  if s.isEmpty ∨ (s.head? = some '0' ∧ s ≠ ['0']) then none
  let n ← digitsIn? 10 s
  if 255 < n then none else return n

def groups? (s : List Char) : Option (List Nat) := do
  match ← (s.splitOn '.').mapM plainPart? with
  | [a, b, c, d] => return [256 * a + b, 256 * c + d]
  | _ => none

end Ipv4

namespace Ipv6

def group? (s : List Char) : Option Nat :=
  if s.isEmpty ∨ 4 < s.length then none else digitsIn? 16 s

def groups? (mixed : Bool) (s : List Char) : Option (List Nat) :=
  if s.isEmpty then some []
  else do
    let all := s.splitOn ':'
    let last := all.getLast?.getD []
    let before ← all.dropLast.mapM group?
    if mixed ∧ last.contains '.' then return before ++ (← Ipv4.groups? last)
    else return before ++ [← group? last]

def cut? : List Char → Option (List Char × List Char)
  | [] => none
  | ':' :: ':' :: rest => some ([], rest)
  | c :: rest => (cut? rest).map fun (before, after) => (c :: before, after)

def parse? (s : List Char) : Option (List Nat) := do
  match cut? s with
  | none =>
    let all ← if s.isEmpty then none else groups? true s
    if all.length = 8 then return all else none
  | some (before, after) =>
    let front ← groups? false before
    let back ← groups? true after
    let given := front.length + back.length
    if 7 < given then none else return front ++ List.replicate (8 - given) 0 ++ back

def zerosAhead (groups : List Nat) : Nat := (groups.takeWhile (· = 0)).length

def longestRun : List Nat → Nat × Nat
  | [] => (0, 0)
  | n :: rest =>
    let (place, length) := longestRun rest
    if length ≤ zerosAhead (n :: rest) then (0, zerosAhead (n :: rest)) else (place + 1, length)

def hexDigits (n : Nat) : List Char := Nat.toDigits 16 n

def join (groups : List Nat) : List Char := List.intercalate [':'] (groups.map hexDigits)

/-- Two zeros and more are left out, once. -/
def render (groups : List Nat) : List Char :=
  let (place, length) := longestRun groups
  if length < 2 then join groups
  else join (groups.take place) ++ "::".toList ++ join (groups.drop (place + length))

end Ipv6

def bracketed? (s : List Char) : Option (List Char) :=
  if s.getLast? = some ']' then (Ipv6.parse? s.dropLast).map fun groups =>
    '[' :: Ipv6.render groups ++ [']']
  else none

def domain? (s : List Char) : Option (List Char) := do
  let domain ← Domain.ascii? (← decode? s)
  if domain.isEmpty then none
  else if Ipv4.isMeant domain then (Ipv4.value? domain).map Ipv4.render
  else return domain

def host? (special : Bool) (s : List Char) : Option (List Char) :=
  match s with
  | '[' :: rest => bracketed? rest
  | _ =>
    if special then domain? s
    else if s.any forbiddenInHost then none
    else some (encode hiddenInHost s)

end DesignTokens.Url
