import DesignTokens.Number.Shortest

/-!
The written forms of numbers. Plain form never has an exponent; scientific form always has one;
JSON form switches between them by size and marks every number as one that may have a fraction.
-/

namespace DesignTokens.Number

def zeros (n : Nat) : List Char := List.replicate n '0'

def plainDigits (digits : List Char) (point : Int) : List Char :=
  if point ≤ 0 then '0' :: '.' :: zeros (-point).toNat ++ digits
  else if digits.length ≤ point.toNat then digits ++ zeros (point.toNat - digits.length)
  else digits.take point.toNat ++ '.' :: digits.drop point.toNat

def leadDigit : List Char → List Char
  | [] => []
  | [c] => [c]
  | c :: rest => c :: '.' :: rest

def intDigits (n : Int) : List Char :=
  if n < 0 then '-' :: digitsOfNat n.natAbs else digitsOfNat n.natAbs

def signedDigits (n : Int) : List Char :=
  (if n < 0 then '-' else '+') :: digitsOfNat n.natAbs

def withSign (negative : Bool) (s : List Char) : List Char := if negative then '-' :: s else s

def plain (x : Float) : List Char :=
  match parts x with
  | .nan => "NaN".toList
  | .infinite negative => withSign negative "inf".toList
  | .finite negative m =>
    if m.mantissa = 0 then withSign negative ['0']
    else
      let (digits, point) := m.shortest .up
      withSign negative (plainDigits digits point)

def literalPlainBelow : Int := 21

/-- A number as a stylesheet writes it: plain from `10 ^ -6` to below `10 ^ 21`, otherwise with a
    signed exponent; zero has no sign. -/
def literal (x : Float) : List Char :=
  match parts x with
  | .nan => "NaN".toList
  | .infinite negative => withSign negative "Infinity".toList
  | .finite negative m =>
    if m.mantissa = 0 then ['0']
    else
      let (digits, point) := m.shortest .up
      withSign negative
        (if -6 < point ∧ point ≤ literalPlainBelow then plainDigits digits point
         else leadDigit digits ++ 'e' :: signedDigits (point - 1))

/-- A number as a JSON text writes it: plain from `10 ^ -5` to below `10 ^ 16`, always with a point,
    otherwise with a signed exponent. -/
def json (negative : Bool) (m : Magnitude) : List Char :=
  if m.mantissa = 0 then withSign negative ['0', '.', '0']
  else
    let (digits, point) := m.shortest .toEven
    withSign negative
      (if -5 < point ∧ point ≤ 16 then
        plainDigits digits point ++ (if (digits.length : Int) ≤ point then ['.', '0'] else [])
       else leadDigit digits ++ 'e' :: signedDigits (point - 1))

end DesignTokens.Number
