import DesignTokens.Number.Decimal

/-!
The decimal with the fewest digits that reads back to a given number; of several the nearest. The
search is exact: a decimal reads back if it lies between the halfway points to the two neighbours,
ends included where the mantissa is even.
-/

namespace DesignTokens.Number

inductive Tie where
  | toEven
  | up
  deriving DecidableEq

def compareDecimal (digits : Nat) (scale : Int) (mantissa : Nat) (exponent : Int) : Ordering :=
  compare (timesPower (timesPower digits 10 scale) 2 (-exponent))
    (timesPower (timesPower mantissa 2 exponent) 10 (-scale))

def Magnitude.readsBack (m : Magnitude) (digits : Nat) (scale : Int) : Bool :=
  let low := 4 * m.mantissa - (if m.narrowBelow then 1 else 2)
  let high := 4 * m.mantissa + 2
  let ends := m.mantissa % 2 = 0
  let above := compareDecimal digits scale low (m.exponent - 2)
  let below := compareDecimal digits scale high (m.exponent - 2)
  (above = .gt || (ends && above = .eq)) && (below = .lt || (ends && below = .eq))

def Magnitude.decimalScale (m : Magnitude) : Int :=
  let (num, den) := m.ratio
  if den ≤ num then decimalLength (num / den)
  else
    let places := decimalLength (den / num)
    if timesPower num 10 (places - 1) < den then 1 - (places : Int) else 2 - (places : Int)

/-- Of the two neighbours of the magnitude among the multiples of `10 ^ scale`, the one to print. -/
def Magnitude.candidate? (m : Magnitude) (tie : Tie) (scale : Int) : Option Nat :=
  let (num, den) := m.ratio
  let num := timesPower num 10 (-scale)
  let den := timesPower den 10 scale
  let digits := num / den
  match m.readsBack digits scale, m.readsBack (digits + 1) scale with
  | false, false => none
  | true, false => some digits
  | false, true => some (digits + 1)
  | true, true =>
    match compare (2 * (num % den)) den, tie with
    | .lt, _ => some digits
    | .gt, _ => some (digits + 1)
    | .eq, .up => some (digits + 1)
    | .eq, .toEven => some (digits + digits % 2)

def Magnitude.exactDecimal (m : Magnitude) : Nat × Int :=
  if 0 ≤ m.exponent then (timesPower m.mantissa 2 m.exponent, 0)
  else (timesPower m.mantissa 5 (-m.exponent), m.exponent)

/-- The digits of a positive magnitude without zeros at the end, and the place of the point: so many
    digits from the front. -/
def Magnitude.shortest (m : Magnitude) (tie : Tie) : List Char × Int :=
  let scale := m.decimalScale
  let (digits, exponent) :=
    ((List.range 17).findSome? fun (n : Nat) =>
      (m.candidate? tie (scale - (n + 1))).map fun digits => (digits, scale - (n + 1))).getD
        m.exactDecimal
  let text := digitsOfNat digits
  ((text.reverse.dropWhile (· = '0')).reverse, text.length + exponent)

end DesignTokens.Number
