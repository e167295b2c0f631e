/-!
The exact value behind a binary64 number: a sign and a natural number times a power of two. The
other modules on numbers calculate with these parts and not with rounded operations.
-/

namespace DesignTokens.Number

/-- A finite number without its sign, `mantissa * 2 ^ exponent`. -/
structure Magnitude where
  mantissa : Nat
  exponent : Int
  narrowBelow : Bool
  deriving DecidableEq

inductive Parts where
  | nan
  | infinite (negative : Bool)
  | finite (negative : Bool) (magnitude : Magnitude)
  deriving DecidableEq

def fractions : Nat := 0x10000000000000

def partsOfBits (bits : Nat) : Parts :=
  let negative := bits.testBit 63
  let biased := bits / fractions % 2048
  let fraction := bits % fractions
  if biased = 2047 then
    if fraction = 0 then .infinite negative else .nan
  else if biased = 0 then .finite negative ⟨fraction, -1074, false⟩
  else .finite negative ⟨fractions + fraction, (biased : Int) - 1075, fraction = 0 && 1 < biased⟩

def parts (x : Float) : Parts := partsOfBits x.toBits.toNat

def timesPower (n base : Nat) (exponent : Int) : Nat := n * Nat.pow base exponent.toNat

def Magnitude.ratio (m : Magnitude) : Nat × Nat :=
  (timesPower m.mantissa 2 m.exponent, timesPower 1 2 (-m.exponent))

def Magnitude.round (m : Magnitude) : Nat :=
  let (num, den) := m.ratio
  (2 * num + den) / (2 * den)

/-- The nearest whole number with the sign of `x`, a half going away from zero. Numbers from
    `2 ^ 52` on are whole. -/
def roundHalfAway (x : Float) : Float :=
  match parts x with
  | .finite negative m =>
    if 0 ≤ m.exponent then x
    else
      let whole := Float.ofScientific m.round false 0
      if negative then -whole else whole
  | _ => x

end DesignTokens.Number
