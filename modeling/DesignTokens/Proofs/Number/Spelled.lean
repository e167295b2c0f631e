import DesignTokens.Proofs.Number.Numeral
import DesignTokens.Proofs.Number.Short
import DesignTokens.Proofs.Text.Plain

namespace DesignTokens.Number

open Float.Model Float.Model.UnpackedFloat
open Text (lower lowerAscii)

variable {f g : UnpackedFloat}

theorem isNaN_of_isFinite (h : f.isFinite = true) : f.isNaN = false := by
  cases f with
  | infinity s => rfl
  | notANumber => cases h
  | zero s => rfl
  | finite s m e positive => rfl

theorem infinity_isNaN (s : Sign) : (Float.Model.pack (.infinity s)).unpack.isNaN = false := by
  cases s <;> rfl

theorem pack_isNaN (h : f.isNaN = false) : (Float.Model.pack f).unpack.isNaN = false := by
  cases f with
  | infinity s => exact infinity_isNaN s
  | notANumber => cases h
  | zero s =>
    have modest : Modest 0 (Float.Model.pack (.zero s)).unpack := unpack_zero s (by omega)
    exact isNaN_of_isFinite modest.isFinite
  | finite s m e positive =>
    by_cases inside : e ≤ 971
    · have modest : Modest 971 (Float.Model.pack (.finite s m e positive)).unpack :=
        unpack_pack positive (by omega) (by omega) inside
      exact isNaN_of_isFinite modest.isFinite
    · -- The exponent does not fit its field, which is filled with ones over a mantissa of zeros.
      have beyond : 2 ^ Format.binary64.exponentBits ≤ (e + Format.binary64.exponentBias +
          Format.binary64.mantissaBitsWithoutImplicit).toNat + 1 := by
        rw [exponentBias_eq]
        change 2048 ≤ (e + 1023 + 52).toNat + 1
        omega
      have top : UnpackedFloat.pack Format.binary64 (.finite s m e positive) =
          UnpackedFloat.pack Format.binary64 (.infinity s) := if_pos beyond
      change (UnpackedFloat.unpack Format.binary64
        (UnpackedFloat.pack Format.binary64 (.finite s m e positive))).isNaN = false
      rw [top]
      exact infinity_isNaN s

theorem round_isNaN (sign : Sign) (m : Nat) (e : Int) (accuracy : Accuracy) :
    (roundWithAccuracy Format.binary64 sign m e accuracy).isNaN = false := by
  unfold roundWithAccuracy
  generalize shiftToTargetExponent Format.binary64 m e accuracy = shifted
  dsimp only
  generalize shiftToTargetExponent Format.binary64 _ _ .exact = final
  by_cases zero : final.1.mantissa = 0
  · rw [dif_pos zero]
    rfl
  · rw [dif_neg zero]
    rfl

theorem mul_isNaN (hf : f.isFinite = true) (hg : g.isFinite = true) :
    (UnpackedFloat.mul Format.binary64 f g).isNaN = false := by
  cases f with
  | infinity s => cases hf
  | notANumber => cases hf
  | zero s => cases g <;> first | rfl | cases hg
  | finite s m e positive =>
    cases g with
    | infinity t => cases hg
    | notANumber => cases hg
    | zero t => rfl
    | finite t n e' positive' => exact round_isNaN _ _ _ _

theorem div_isNaN (hf : f.isFinite = true) (sign : Sign) {m : Nat} (e : Int) (positive : 0 < m) :
    (UnpackedFloat.div Format.binary64 f (.finite sign m e positive)).isNaN = false := by
  cases f with
  | infinity s => cases hf
  | notANumber => cases hf
  | zero s => rfl
  | finite s n e' positive' => exact round_isNaN _ _ _ _

theorem unpacked_ofScientific_isNaN (m : Nat) (e : Int) :
    (UnpackedFloat.ofScientific Format.binary64 m e).isNaN = false := by
  unfold UnpackedFloat.ofScientific
  by_cases zero : m = 0
  · rw [dif_pos zero]
    rfl
  rw [dif_neg zero]
  by_cases large : e > 2 ^ Format.binary64.exponentBits
  · rw [if_pos large]
    rfl
  rw [if_neg large]
  by_cases small : e < -((2 ^ Format.binary64.exponentBits : Int) + m.log2)
  · rw [if_pos small]
    rfl
  rw [if_neg small]
  by_cases whole : 0 ≤ e
  · rw [if_pos whole]
    exact mul_isNaN rfl rfl
  · rw [if_neg whole]
    exact div_isNaN rfl _ _ _

theorem ofScientific_isNaN (m : Nat) (s : Bool) (e : Nat) :
    (Float.ofScientific m s e).isNaN = false := by
  unfold Float.ofScientific
  split
  · next short =>
    -- One rounding, of a finite number by a power of ten that is not zero.
    have inside : e < Float.exactlyRepresentablePowersOfTen.size := Nat.lt_succ_of_le short.2
    obtain ⟨mantissa, exponent, normal, power, -⟩ := moderate_power inside
    have whole := (ofNat_modest (n := m.toUInt64.toNat) (UInt64.toNat_lt _)).isFinite
    dsimp only
    split
    · change (Float.Model.pack (UnpackedFloat.div Format.binary64 _ _)).unpack.isNaN = false
      rw [power]
      exact pack_isNaN (div_isNaN whole _ _ _)
    · change (Float.Model.pack (UnpackedFloat.mul Format.binary64 _ _)).unpack.isNaN = false
      rw [power]
      exact pack_isNaN (mul_isNaN whole rfl)
  · exact pack_isNaN (unpacked_ofScientific_isNaN _ _)

theorem negated_isNaN (h : f.isNaN = false) : f.neg.isNaN = false := by
  cases f with
  | infinity s => rfl
  | notANumber => cases h
  | zero s => rfl
  | finite s m e positive => rfl

theorem neg_isNaN {x : Float} (h : x.isNaN = false) : (-x).isNaN = false :=
  pack_isNaN (negated_isNaN (f := x.toModel.unpack) h)

theorem inf_isNaN : (1 / 0 : Float).isNaN = false := by decide +kernel

theorem nan_isNaN : (0 / 0 : Float).isNaN = true := by decide +kernel

/-- A decimal number is near a number, or beyond all of them. -/
theorem Decimal.toFloat_isNaN (d : Decimal) : d.toFloat.isNaN = false := by
  have magnitude : (if d.digits = 0 ∨ (decimalLength d.digits : Int) + d.exponent < -330 then 0
      else if 330 < (decimalLength d.digits : Int) + d.exponent then 1 / 0
      else Float.ofScientific d.digits (d.exponent < 0) d.exponent.natAbs).isNaN = false := by
    split
    · exact ofScientific_isNaN 0 false 0
    · split
      · exact inf_isNaN
      · exact ofScientific_isNaN _ _ _
  unfold toFloat
  dsimp only
  split
  · exact neg_isNaN magnitude
  · exact magnitude

variable {s : List Char}

/-- The text is a numeral in ASCII digits, or an infinity by name. -/
def Spells (s : List Char) : Prop :=
  (∃ n : Numeral isDigit, n.text = s) ∨
    ∃ sign ∈ signs, ∃ word, s = sign ++ word ∧
      (String.ofList (lower word) = "inf" ∨ String.ofList (lower word) = "infinity")

theorem takeSign_infinity {sign word : List Char} (isSign : sign ∈ signs)
    (named : String.ofList (lower word) = "inf" ∨ String.ofList (lower word) = "infinity") :
    takeSign (sign ++ word) = (sign, word) := by
  refine takeSign_append isSign ?_
  intro c hc
  obtain ⟨rest, rfl⟩ := List.head?_eq_some_iff.1 hc
  have letter : lowerAscii c = 'i' := by
    rcases named with named | named
    all_goals
      have spelled := congrArg String.toList named
      rw [String.toList_ofList] at spelled
      exact (List.cons.inj spelled).1
  apply isSign_eq_false
  all_goals
    rintro rfl
    exact absurd letter (by decide)

theorem Numeral.not_nan (n : Numeral isDigit) (t : List Char) :
    String.ofList (lower (n.mantissa.text ++ t)) ≠ "nan" := by
  intro named
  have spelled := congrArg String.toList named
  rw [String.toList_ofList] at spelled
  obtain ⟨c, rest, text, first⟩ := n.mantissa.exists_cons
  rw [text] at spelled
  have letter : lowerAscii c = 'n' := (List.cons.inj spelled).1
  rcases first with digit | rfl
  · have range := isDigit_range digit
    rw [Text.lowerAscii_eq_self (by omega)] at letter
    exact absurd digit (by rw [letter]; decide)
  · exact absurd letter (by decide)

theorem signed_isNaN (sign : List Char) :
    (if sign = ['-'] then -(1 / 0) else 1 / 0 : Float).isNaN = false := by
  split
  · exact neg_isNaN inf_isNaN
  · exact inf_isNaN

theorem ofText?_isNaN (s : List Char) :
    ((ofText? s).any fun x => !x.isNaN) = true ↔ Spells s := by
  constructor
  · intro number
    cases signed : takeSign s with
    | mk sign word =>
    obtain ⟨whole, isSign⟩ := takeSign_eq signed
    simp only [ofText?, signed] at number
    split at number
    · next named => exact .inr ⟨sign, isSign, word, whole, named⟩
    · split at number
      · rw [Option.any_some, nan_isNaN] at number
        cases number
      · cases parsed : Decimal.parse? s with
        | none => simp [parsed] at number
        | some d =>
          obtain ⟨n, text, -⟩ := Decimal.parse?_eq_some_iff.1 parsed
          exact .inl ⟨n, text⟩
  · rintro (⟨n, rfl⟩ | ⟨sign, isSign, word, rfl, named⟩)
    · have signed := n.takeSign isDigit_class []
      rw [List.append_nil] at signed
      have parsed : Decimal.parse? n.text = some n.decimal :=
        Decimal.parse?_eq_some_iff.2 ⟨n, rfl, rfl⟩
      simp only [ofText?, signed, parsed]
      rw [if_neg (n.not_nan _)]
      split
      · rw [Option.any_some, signed_isNaN]
        rfl
      · rw [Option.map_some, Option.any_some, Decimal.toFloat_isNaN]
        rfl
    · simp only [ofText?, takeSign_infinity isSign named]
      rw [if_pos named, Option.any_some, signed_isNaN]
      rfl

end DesignTokens.Number
