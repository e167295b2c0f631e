import DesignTokens.Number.Magnitude
import DesignTokens.Text.LowerCase

/-!
Decimal numbers, and reading them. `parse?` knows one grammar for all readers of this library:
an optional sign, digits with at most one point among or around them, an optional exponent.
-/

namespace DesignTokens.Number

/-- `digits * 10 ^ exponent`, below zero where `negative` says so; there are two zeros. -/
structure Decimal where
  negative : Bool
  digits : Nat
  exponent : Int
  deriving DecidableEq

def isDigit (c : Char) : Bool := 48 ≤ c.val && c.val ≤ 57

def digitValue (c : Char) : Nat := c.toNat - 48

def natOfDigits (digits : List Char) : Nat :=
  digits.foldl (fun n c => 10 * n + digitValue c) 0

def digitsOfNat (n : Nat) : List Char := Nat.toDigits 10 n

def decimalLength (n : Nat) : Nat := (digitsOfNat n).length

/-- The nearest binary64 number, to even on a tie. Beyond the scales at which every such number
    overflows or vanishes the power of ten is not worked out. -/
def Decimal.toFloat (d : Decimal) : Float :=
  let scale := (decimalLength d.digits : Int) + d.exponent
  let magnitude : Float :=
    if d.digits = 0 ∨ scale < -330 then 0
    else if 330 < scale then 1 / 0
    else Float.ofScientific d.digits (d.exponent < 0) d.exponent.natAbs
  if d.negative then -magnitude else magnitude

def isSign (c : Char) : Bool := c = '+' || c = '-'

def takeSign : List Char → List Char × List Char
  | [] => ([], [])
  | c :: rest => if isSign c then ([c], rest) else ([], c :: rest)

def takeExponent (digit : Char → Bool) : List Char → List Char × List Char
  | [] => ([], [])
  | e :: rest =>
    let (sign, rest') := takeSign rest
    let digits := rest'.takeWhile digit
    if (e = 'e' || e = 'E') && !digits.isEmpty then
      (e :: sign ++ digits, rest'.dropWhile digit)
    else ([], e :: rest)

def takeMantissa (digit : Char → Bool) (s : List Char) : Option (List Char × List Char) :=
  let whole := s.takeWhile digit
  match s.dropWhile digit with
  | '.' :: rest =>
    let fraction := rest.takeWhile digit
    if whole.isEmpty && fraction.isEmpty then none
    else some (whole ++ '.' :: fraction, rest.dropWhile digit)
  | rest => if whole.isEmpty then none else some (whole, rest)

/-- The longest numeral a text begins with, and what follows it. Which characters are digits is up
    to the caller. -/
def takeNumeral (digit : Char → Bool) (s : List Char) : Option (List Char × List Char) :=
  let (sign, rest) := takeSign s
  (takeMantissa digit rest).map fun (mantissa, rest) =>
    let (exponent, rest) := takeExponent digit rest
    (sign ++ mantissa ++ exponent, rest)

def mantissaValue (mantissa : List Char) : Nat × Int :=
  let fraction := (mantissa.dropWhile (· ≠ '.')).drop 1
  (natOfDigits (mantissa.takeWhile (· ≠ '.') ++ fraction), -(fraction.length : Int))

def exponentValue : List Char → Int
  | _ :: '-' :: digits => -(natOfDigits digits : Int)
  | _ :: '+' :: digits => natOfDigits digits
  | _ :: digits => natOfDigits digits
  | [] => 0

def Decimal.parse? (s : List Char) : Option Decimal :=
  let (sign, rest) := takeSign s
  match takeMantissa isDigit rest with
  | none => none
  | some (mantissa, rest) =>
    let (exponent, rest) := takeExponent isDigit rest
    if rest.isEmpty then
      let (digits, scale) := mantissaValue mantissa
      some ⟨sign = ['-'], digits, scale + exponentValue exponent⟩
    else none

/-- The number that a text spells: a decimal number, or an infinity or NaN by name in any case. -/
def ofText? (s : List Char) : Option Float :=
  let (sign, rest) := takeSign s
  let name := String.ofList (Text.lower rest)
  let signed (x : Float) : Float := if sign = ['-'] then -x else x
  if name = "inf" ∨ name = "infinity" then some (signed (1 / 0))
  else if name = "nan" then some (0 / 0)
  else (Decimal.parse? s).map Decimal.toFloat

end DesignTokens.Number
