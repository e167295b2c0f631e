import DesignTokens.Json.Number
import Mathlib.Algebra.Group.Nat.Defs

namespace DesignTokens.Number

open Float.Model Float.Model.UnpackedFloat

/-- Zero, or a number with 53 bits and an exponent of at most `bound`. -/
inductive Modest (bound : Int) : UnpackedFloat → Prop where
  | zero (sign : Sign) : Modest bound (.zero sign)
  | finite (sign : Sign) {mantissa : Nat} {exponent : Int} (positive : 0 < mantissa) :
      mantissa < 2 ^ 53 → exponent ≤ bound → Modest bound (.finite sign mantissa exponent positive)

namespace Modest

variable {bound : Int} {f : UnpackedFloat}

theorem isFinite (h : Modest bound f) : f.isFinite = true := by
  cases h <;> rfl

theorem neg (h : Modest bound f) : Modest bound f.neg := by
  cases h with
  | zero s => exact .zero _
  | finite s positive small low => exact .finite _ positive small low

end Modest

variable {bound : Int}

theorem exponentBias_eq : (Format.exponentBias Format.binary64 : Int) = 1023 := by decide

theorem unpack_modest {b : BitVec Format.binary64.numBits} (fits : (unpackExponent b).toNat < 2047)
    (low : -1074 ≤ bound) (high : ((unpackExponent b).toNat : Int) - 1075 ≤ bound) :
    Modest bound (UnpackedFloat.unpack Format.binary64 b) := by
  have fraction : (unpackMantissa b).toNat < 2 ^ 52 := (unpackMantissa b).isLt
  have notTop : ¬unpackExponent b = -1#11 := by
    intro top
    rw [top] at fits
    exact absurd fits (by decide)
  unfold UnpackedFloat.unpack
  dsimp only
  rw [if_neg notTop]
  by_cases none : unpackExponent b = 0#11
  · rw [if_pos none]
    by_cases zero : unpackMantissa b = 0#52
    · rw [dif_pos zero]
      exact .zero _
    · rw [dif_neg zero]
      refine .finite _ _ (by omega) ?_
      rw [none, exponentBias_eq]
      change (0 : Int) - (1023 + 52) + 1 ≤ bound
      omega
  · rw [if_neg none]
    refine .finite _ _ (BitVec.isLt _) ?_
    rw [exponentBias_eq]
    change ((unpackExponent b).toNat : Int) - (1023 + 52) ≤ bound
    omega

theorem unpack_components (sign : Sign) (exponent : BitVec 11) (mantissa : BitVec 52)
    (fits : exponent.toNat < 2047) (low : -1074 ≤ bound)
    (high : (exponent.toNat : Int) - 1075 ≤ bound) :
    Modest bound (UnpackedFloat.unpack Format.binary64
      (packComponents Format.binary64 sign exponent mantissa)) := by
  have same : unpackExponent (packComponents Format.binary64 sign exponent mantissa) = exponent :=
    unpackExponent_packComponents
  exact unpack_modest (by rwa [same]) low (by rwa [same])

theorem unpack_zero (s : Sign) (low : -1074 ≤ bound) :
    Modest bound (Float.Model.pack (.zero s)).unpack :=
  unpack_components s 0 0 (by decide) low (by simp; omega)

theorem unpack_pack {s : Sign} {m : Nat} {e : Int} (positive : 0 < m) (low : -1074 ≤ bound)
    (high : bound ≤ 971) (exponent : e ≤ bound) :
    Modest bound (Float.Model.pack (.finite s m e positive)).unpack := by
  change Modest bound (UnpackedFloat.unpack Format.binary64
    (UnpackedFloat.pack Format.binary64 (.finite s m e positive)))
  unfold UnpackedFloat.pack
  simp only [exponentBias_eq]
  split
  · omega
  · split
    · refine unpack_components _ _ _ ?_ low ?_
      · simp; omega
      · simp; omega
    · refine unpack_components _ _ _ (by decide) low (by simp; omega)

theorem Modest.pack {f : UnpackedFloat} (h : Modest bound f) (low : -1074 ≤ bound)
    (high : bound ≤ 971) : Modest bound (Float.Model.pack f).unpack := by
  cases h with
  | zero s => exact unpack_zero s low
  | finite s positive small exponent => exact unpack_pack positive low high exponent

theorem mantissa_shiftRight (em : ExtendedMantissa) (n : Nat) :
    (em >>> n).mantissa ≤ em.mantissa := by
  induction n generalizing em with
  | zero => exact Nat.le_refl _
  | succ n ih =>
    change ((em >>> n).mantissa / 2) ≤ _
    have := ih em
    omega

theorem roundedMantissa_le (em : ExtendedMantissa) : em.roundedMantissa ≤ em.mantissa + 1 := by
  obtain ⟨m, round, sticky⟩ := em
  cases round <;> cases sticky <;>
    simp [ExtendedMantissa.roundedMantissa, ExtendedMantissa.accuracy, Accuracy.roundToNearestEven]
  omega

theorem targetExponent_eq (e : Int) : Format.binary64.targetExponent e = max (e - 53) (-1074) := rfl

theorem shiftToTarget_le (m : Nat) (e : Int) (accuracy : Accuracy) :
    (shiftToTargetExponent Format.binary64 m e accuracy).1.mantissa ≤ m ∧
      (shiftToTargetExponent Format.binary64 m e accuracy).2 =
        max e (max (m.log2 + e - 52) (-1074)) := by
  have start : (ExtendedMantissa.ofMantissaAndAccuracy m accuracy).mantissa = m := by
    cases accuracy with
    | exact => rfl
    | inexact half => cases half <;> rfl
  refine ⟨Nat.le_trans (mantissa_shiftRight _ _) (Nat.le_of_eq start), ?_⟩
  simp only [shiftToTargetExponent, shiftToExponent, targetExponent_eq, totalExponent]
  omega

theorem round_modest {m : Nat} {e : Int} (sign : Sign) (accuracy : Accuracy) (low : 0 ≤ bound)
    (high : bound + 152 ≤ 971) (bits : m < 2 ^ 128) (exponent : e ≤ bound) :
    Modest (bound + 152)
      (Float.Model.pack (roundWithAccuracy Format.binary64 sign m e accuracy)).unpack := by
  have log {n : Nat} (h : n ≤ 2 ^ 128) : n.log2 ≤ 128 := by
    by_cases zero : n = 0
    · simp [zero]
    · have := (Nat.log2_lt (k := 129) zero).2 (by omega)
      omega
  have first := shiftToTarget_le m e accuracy
  generalize shifted : shiftToTargetExponent Format.binary64 m e accuracy = pair at first
  obtain ⟨em, e₁⟩ := pair
  have rounded := roundedMantissa_le em
  have second := shiftToTarget_le em.roundedMantissa e₁ .exact
  generalize again :
    shiftToTargetExponent Format.binary64 em.roundedMantissa e₁ .exact = pair at second
  obtain ⟨final, e₂⟩ := pair
  dsimp only at first second
  have log₁ : m.log2 ≤ 128 := log (by omega)
  have log₂ : em.roundedMantissa.log2 ≤ 128 := log (by omega)
  unfold roundWithAccuracy
  rw [shifted]
  dsimp only
  rw [again]
  dsimp only
  by_cases zero : final.mantissa = 0
  · rw [dif_pos zero]
    exact unpack_zero sign (by omega)
  · rw [dif_neg zero]
    exact unpack_pack _ (by omega) high (by omega)

theorem mul_modest {bound₁ bound₂ : Int} {f g : UnpackedFloat} (hf : Modest bound₁ f)
    (hg : Modest bound₂ g) (low : 0 ≤ bound₁ + bound₂) (high : bound₁ + bound₂ + 152 ≤ 971) :
    Modest (bound₁ + bound₂ + 152)
      (Float.Model.pack (UnpackedFloat.mul Format.binary64 f g)).unpack := by
  cases hf with
  | zero s => cases hg <;> exact unpack_zero _ (by omega)
  | finite s positive small exponent =>
    cases hg with
    | zero t => exact unpack_zero _ (by omega)
    | finite t positive' small' exponent' =>
      refine round_modest (s * t) .exact low high ?_ (by omega)
      have := Nat.mul_lt_mul'' small small'
      omega

theorem ofNat_modest {n : Nat} (bits : n < 2 ^ 64) :
    Modest 152 (Float.Model.pack (UnpackedFloat.ofNat Format.binary64 n)).unpack := by
  unfold UnpackedFloat.ofNat UnpackedFloat.ofInt UnpackedFloat.normalize
  split
  · rename_i below
    rw [Int.compare_eq_lt] at below
    omega
  · exact unpack_zero _ (by omega)
  · have shift : (0 - Format.binary64.targetExponent (totalExponent n 0)).toNat ≤ 52 := by
      simp only [targetExponent_eq, totalExponent]
      omega
    simp only [UnpackedFloat.round, decreaseExponent, Int.toNat_natCast]
    change Modest (0 + 152) _
    refine round_modest .positive .exact (by omega) (by omega) ?_ (by omega)
    calc n <<< _ = n * 2 ^ _ := Nat.shiftLeft_eq _ _
      _ < 2 ^ 64 * 2 ^ 64 := Nat.mul_lt_mul'' bits (Nat.pow_lt_pow_right (by omega) (by omega))
      _ = 2 ^ 128 := rfl

theorem one_modest : Modest 0 (Float.ofBits 0x3FF0000000000000).toModel.unpack := by
  have one : UnpackedFloat.unpack Format.binary64 (0x3FF0000000000000 : UInt64).toBitVec =
      .finite .positive (2 ^ 52) (-52) (by decide) := rfl
  change Modest 0 (Float.Model.pack (UnpackedFloat.unpack Format.binary64
    (0x3FF0000000000000 : UInt64).toBitVec)).unpack
  rw [one]
  exact unpack_pack _ (by omega) (by omega) (by omega)

theorem ofScientific_short {n : Nat} (short : n < 2 ^ 53) :
    (Float.ofScientific n false 0).toModel.unpack =
      (Float.Model.pack (UnpackedFloat.mul Format.binary64
        (Float.Model.pack (UnpackedFloat.ofNat Format.binary64 n.toUInt64.toNat)).unpack
        (Float.ofBits 0x3FF0000000000000).toModel.unpack)).unpack := by
  unfold Float.ofScientific
  rw [dif_pos ⟨short, by omega⟩]
  rfl

theorem ofScientific_long {n : Nat} (long : 2 ^ 53 ≤ n) :
    (Float.ofScientific n false 0).toModel.unpack =
      (Float.Model.pack (roundWithAccuracy Format.binary64 (.positive * .positive)
        ((n <<< 53) * 10 ^ 0) (-53 + 0) .exact)).unpack := by
  have whole : UnpackedFloat.ofScientific Format.binary64 n 0 =
      roundWithAccuracy Format.binary64 (.positive * .positive) ((n <<< 53) * 10 ^ 0) (-53 + 0)
        .exact := by
    unfold UnpackedFloat.ofScientific
    have least : (0 : Int) ≤ 2 ^ Format.binary64.exponentBits := by decide
    rw [dif_neg (by omega), if_neg (by omega), if_neg (by omega), if_pos (by omega)]
    rfl
  unfold Float.ofScientific
  rw [dif_neg (by omega), ← whole]
  rfl

theorem ofScientific_modest {n : Nat} (bits : n < 2 ^ 64) :
    Modest 304 (Float.ofScientific n false 0).toModel.unpack := by
  by_cases short : n < 2 ^ 53
  · rw [ofScientific_short short]
    exact mul_modest (ofNat_modest (n := n.toUInt64.toNat) (UInt64.toNat_lt _)) one_modest
      (by omega) (by omega)
  · rw [ofScientific_long (by omega)]
    change Modest (152 + 152) _
    refine round_modest _ .exact (by omega) (by omega) ?_ (by omega)
    calc (n <<< 53) * 10 ^ 0 = n * 2 ^ 53 := by rw [Nat.shiftLeft_eq, Nat.pow_zero, Nat.mul_one]
      _ < 2 ^ 128 := by omega

theorem isFinite_of_modest {x : Float} (h : Modest 304 x.toModel.unpack) :
    x.isFinite = true ∧ (-x).isFinite = true := by
  have negated : Modest 304 (-x).toModel.unpack := by
    change Modest 304 (Float.Model.pack x.toModel.unpack.neg).unpack
    exact h.neg.pack (by omega) (by omega)
  exact ⟨h.isFinite, negated.isFinite⟩

/-- What is read from a numeral is a number that JSON can write. -/
theorem toFloat_finite (n : Json.Number) : n.toFloat.isFinite = true := by
  cases n with
  | real x finite => exact finite
  | whole n small =>
    have bits : n.natAbs < 2 ^ 64 := by
      simp only [Json.isSmall, Bool.and_eq_true, decide_eq_true_eq] at small
      omega
    have size : decimalLength n.natAbs ≤ 20 :=
      (Nat.length_toDigits_le_iff (by omega) (by omega)).2 (by omega)
    obtain ⟨positive, negative⟩ := isFinite_of_modest (ofScientific_modest bits)
    obtain ⟨zero, minus⟩ := isFinite_of_modest (x := 0) (ofScientific_modest (n := 0) (by omega))
    change (Decimal.toFloat ⟨n < 0, n.natAbs, 0⟩).isFinite = true
    unfold Decimal.toFloat
    have inside : ¬330 < (decimalLength n.natAbs : Int) + 0 := by omega
    simp only [inside, if_false]
    split <;> split <;> assumption

end DesignTokens.Number
