/-!
Punycode, the ASCII form of labels with other characters. The ASCII characters of a label come
first; the others follow in the order of their codes, as distances written in a base of 36 with
digits whose weights adapt to the distances before. Encoding writes the distances, and decoding
places the characters at them.
-/

namespace DesignTokens.Url.Punycode

def digit (n : Nat) : Char := if n < 26 then .ofNat (97 + n) else .ofNat (22 + n)

def threshold (k bias : Nat) : Nat :=
  if k ≤ bias + 1 then 1 else if bias + 26 ≤ k then 26 else k - bias

theorem threshold_pos (k bias : Nat) : 1 ≤ threshold k bias := by
  unfold threshold
  split
  · omega
  · split <;> omega

def digits (bias k n : Nat) : List Char :=
  let t := threshold k bias
  if n < t then [digit n]
  else digit (t + (n - t) % (36 - t)) :: digits bias (k + 36) ((n - t) / (36 - t))
  termination_by n
  decreasing_by
    have := threshold_pos k bias
    have := Nat.div_le_self (n - threshold k bias) (36 - threshold k bias)
    omega

def damp (k delta : Nat) : Nat × Nat :=
  if 455 < delta then damp (k + 36) (delta / 35) else (k, delta)
  termination_by delta

def adapt (delta count : Nat) (first : Bool) : Nat :=
  let delta := if first then delta / 700 else delta / 2
  let (k, delta) := damp 0 (delta + delta / count)
  k + 36 * delta / (delta + 38)

structure Progress where
  out : List Char
  delta : Nat
  bias : Nat
  placed : Nat

/-- Passes a character of the label while those of the code `code` are placed. `basic` characters
    are ASCII. -/
def visit (basic code : Nat) (p : Progress) (c : Char) : Progress :=
  if c.toNat < code then { p with delta := p.delta + 1 }
  else if c.toNat = code then
    ⟨p.out ++ digits p.bias 36 p.delta, 0, adapt p.delta (p.placed + 1) (p.placed = basic),
      p.placed + 1⟩
  else p

def place (label : List Char) (basic next : Nat) (p : Progress) : List Nat → Progress
  | [] => p
  | code :: codes =>
    let p := { p with delta := p.delta + (code - next) * (p.placed + 1) }
    let p := label.foldl (visit basic code) p
    place label basic (code + 1) { p with delta := p.delta + 1 } codes

def isBasic (c : Char) : Bool := c.toNat < 128

def encode (label : List Char) : List Char :=
  let basic := label.filter isBasic
  let codes := ((label.filter (!isBasic ·)).map Char.toNat).mergeSort.eraseDups
  let start := if basic = [] then [] else basic ++ ['-']
  (place label basic.length 128 ⟨start, 0, 72, basic.length⟩ codes).out

structure Decoding where
  out : List Char
  code : Nat
  bias : Nat
  start : Nat
  reached : Nat
  weight : Nat
  position : Nat

def digitValue? (c : Char) : Option Nat :=
  if c.isLower then some (c.toNat - 97)
  else if c.isUpper then some (c.toNat - 65)
  else if c.isDigit then some (c.toNat - 22)
  else none

def isCode (n : Nat) : Bool := n < 0xd800 || (0xdfff < n && n < 0x110000)

def read (d : Decoding) (c : Char) : Option Decoding := do
  let n ← digitValue? c
  let reached := d.reached + n * d.weight
  let t := threshold d.position d.bias
  if t ≤ n then
    return { d with reached, weight := d.weight * (36 - t), position := d.position + 36 }
  else
    let count := d.out.length + 1
    let code := d.code + reached / count
    let place := reached % count
    if isCode code then
      return ⟨d.out.insertIdx place (.ofNat code), code,
        adapt (reached - d.start) count (d.start = 0), place + 1, place + 1, 1, 36⟩
    else none

def decode? (s : List Char) : Option (List Char) := do
  let digits := (s.reverse.takeWhile (· ≠ '-')).reverse
  let basic := s.take (s.length - digits.length - 1)
  if (basic = [] ∧ s.contains '-') ∨ !basic.all isBasic then none
  let d ← digits.foldlM read ⟨basic, 128, 72, 0, 0, 1, 36⟩
  if d.position = 36 then return d.out else none

end DesignTokens.Url.Punycode
