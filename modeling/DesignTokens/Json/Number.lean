import DesignTokens.Number.Notation

/-!
Numbers of JSON texts. Whole numbers of 64 bits, with or without a sign, are kept exactly. Of all
others the digits count as far as 64 bits hold them, and the power of ten that is left is multiplied
or divided by in binary64, with a rounding at each step: the number may be next to the nearest one.
One too large for binary64 is no number.
-/

namespace DesignTokens.Json

open DesignTokens.Number

def isSmall (n : Int) : Bool := -0x8000000000000000 ≤ n && n < 0x10000000000000000

def readDigits (n : Nat) : List Char → Nat × List Char
  | [] => (n, [])
  | c :: rest =>
    let next := 10 * n + digitValue c
    if next < 0x10000000000000000 then readDigits next rest else (n, c :: rest)

/-- The digits of a numeral that are read, and how many are not. Behind the point reading goes on,
    also where digits in front of it were too many. -/
def significand (numeral : List Char) : Nat × Nat :=
  let unsigned := (takeSign numeral).2
  let whole := unsigned.takeWhile isDigit
  let fraction :=
    match unsigned.dropWhile isDigit with
    | '.' :: rest => rest.takeWhile isDigit
    | _ => []
  let (n, above) := readDigits 0 whole
  let (n, below) := readDigits n fraction
  (n, above.length + below.length)

def largestPower : Nat := 308

def powerOfTen (n : Nat) : Float := Decimal.toFloat ⟨false, 1, n⟩

/-- Digits of 64 bits times a power of ten. -/
def scale (digits : Nat) (exponent : Int) : Float :=
  let x := Decimal.toFloat ⟨false, digits, 0⟩
  let n := exponent.natAbs
  if digits = 0 then 0
  else if 0 ≤ exponent then x * powerOfTen n
  else if n ≤ largestPower then x / powerOfTen n
  else x / powerOfTen largestPower / powerOfTen (n - largestPower)

def approximate (numeral : List Char) (d : Decimal) : Float :=
  let (digits, unread) := significand numeral
  let magnitude := scale digits (d.exponent + unread)
  if d.negative then -magnitude else magnitude

inductive Number where
  | whole (value : Int) (small : isSmall value = true)
  | real (value : Float) (finite : value.isFinite = true)
  deriving DecidableEq

def Number.ofFloat? (x : Float) : Option Number :=
  if h : x.isFinite = true then some (.real x h) else none

/-- A number from the text of a numeral. A negative zero is not whole. -/
def Number.ofNumeral? (numeral : List Char) : Option Number :=
  match Decimal.parse? numeral with
  | none => none
  | some d =>
    let n : Int := if d.negative then -(d.digits : Int) else d.digits
    if h : isSmall n = true then
      if numeral.any (fun c => c = '.' || c = 'e' || c = 'E') || (d.negative && d.digits = 0) then
        ofFloat? (approximate numeral d)
      else some (.whole n h)
    else ofFloat? (approximate numeral d)

def Number.toFloat : Number → Float
  | whole n _ => Decimal.toFloat ⟨n < 0, n.natAbs, 0⟩
  | real x _ => x

def Number.render : Number → List Char
  | whole n _ => intDigits n
  | real x _ =>
    match parts x with
    | .finite negative m => json negative m
    | _ => "null".toList

end DesignTokens.Json
