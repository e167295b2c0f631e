import DesignTokens.Proofs.Number.Finite
import Mathlib.Algebra.Field.Rat
import Mathlib.Algebra.Order.Ring.Cast
import Mathlib.Algebra.Order.Ring.Rat
import Mathlib.Tactic.NormNum.Basic
import Mathlib.Tactic.Ring

namespace DesignTokens.Number

open Float.Model Float.Model.UnpackedFloat

def Magnitude.value (m : Magnitude) : ℚ := m.mantissa * 2 ^ m.exponent

theorem Magnitude.value_nonneg (m : Magnitude) : 0 ≤ m.value :=
  mul_nonneg (Nat.cast_nonneg _) (zpow_nonneg (by norm_num) _)

def Parts.value : Parts → ℚ
  | .finite false m => m.value
  | .finite true m => -m.value
  | _ => 0

/-- Numbers of at most 53 bits, with zeros behind them. -/
def Representable (n : Nat) : Prop := ∃ m k, m < 2 ^ 53 ∧ n = m * 2 ^ k

def isNegative : Sign → Bool
  | .negative => true
  | .positive => false

section

variable (b : BitVec Format.binary64.numBits)

theorem unpackMantissa_toNat : (unpackMantissa b).toNat = b.toNat % fractions := by
  simp [unpackMantissa, BitVec.extractLsb, fractions]

theorem unpackExponent_toNat : (unpackExponent b).toNat = b.toNat / fractions % 2048 := by
  simp [unpackExponent, BitVec.extractLsb, fractions, Nat.shiftRight_eq_div_pow]

theorem isNegative_unpackSign :
    isNegative (Sign.ofBitVec (unpackSign b)) = b.toNat.testBit 63 := by
  have bit : unpackSign b = BitVec.ofBool (b.toNat.testBit 63) := by
    ext i hi
    have : i = 0 := by omega
    subst this
    delta unpackSign
    simp [BitVec.extractLsb, BitVec.getLsbD]
  rw [bit]
  cases b.toNat.testBit 63 <;> rfl

theorem append_implicit (m : BitVec 52) : (1#1 ++ m).toNat = fractions + m.toNat := by
  have bound := m.isLt
  rw [BitVec.toNat_append, ← Nat.shiftLeft_add_eq_or_of_lt bound]
  rfl

theorem partsOfBits_unpack :
    match UnpackedFloat.unpack Format.binary64 b with
    | .finite s m e _ =>
      ∃ narrow, partsOfBits b.toNat = .finite (isNegative s) ⟨m, e, narrow⟩
    | .zero s => partsOfBits b.toNat = .finite (isNegative s) ⟨0, -1074, false⟩
    | .infinity s => partsOfBits b.toNat = .infinite (isNegative s)
    | .notANumber => partsOfBits b.toNat = .nan := by
  have mantissa := unpackMantissa_toNat b
  have exponent := unpackExponent_toNat b
  have top : unpackExponent b = -1#11 ↔ b.toNat / fractions % 2048 = 2047 := by
    rw [← BitVec.toNat_inj, exponent]
    rfl
  have bottom : unpackExponent b = 0#11 ↔ b.toNat / fractions % 2048 = 0 := by
    rw [← BitVec.toNat_inj, exponent]
    rfl
  have none : unpackMantissa b = 0#52 ↔ b.toNat % fractions = 0 := by
    rw [← BitVec.toNat_inj, mantissa]
    rfl
  unfold UnpackedFloat.unpack partsOfBits
  dsimp only
  by_cases isTop : b.toNat / fractions % 2048 = 2047
  · rw [if_pos (top.2 isTop), if_pos isTop]
    by_cases isNone : b.toNat % fractions = 0
    · rw [if_pos (none.2 isNone), if_pos isNone, ← isNegative_unpackSign]
    · rw [if_neg (mt none.1 isNone), if_neg isNone]
  · rw [if_neg (mt top.1 isTop), if_neg isTop]
    by_cases isBottom : b.toNat / fractions % 2048 = 0
    · rw [if_pos (bottom.2 isBottom), if_pos isBottom]
      by_cases isNone : b.toNat % fractions = 0
      · rw [dif_pos (none.2 isNone), isNone, ← isNegative_unpackSign]
      · rw [dif_neg (mt none.1 isNone), ← isNegative_unpackSign]
        have least : ((unpackExponent b).toNat : Int) - (1023 + 52) + 1 = -1074 := by omega
        refine ⟨false, congrArg (Parts.finite _) ?_⟩
        exact (Magnitude.mk.injEq ..).mpr ⟨mantissa.symm, least.symm, rfl⟩
    · rw [if_neg (mt bottom.1 isBottom), if_neg isBottom, ← isNegative_unpackSign]
      have implicit : (1#1 ++ unpackMantissa b).toNat = fractions + b.toNat % fractions := by
        rw [append_implicit, mantissa]
      have biased : ((unpackExponent b).toNat : Int) - (1023 + 52) =
          ((b.toNat / fractions % 2048 : Nat) : Int) - 1075 := by omega
      refine ⟨b.toNat % fractions = 0 && 1 < b.toNat / fractions % 2048,
        congrArg (Parts.finite _) ?_⟩
      exact (Magnitude.mk.injEq ..).mpr ⟨implicit.symm, biased.symm, rfl⟩

end

theorem shiftRight_exact (m k : Nat) :
    (⟨m * 2 ^ k, false, false⟩ : ExtendedMantissa) >>> k = ⟨m, false, false⟩ := by
  induction k generalizing m with
  | zero => simp [HShiftRight.hShiftRight, Nat.repeat]
  | succ k ih =>
    change ((⟨m * 2 ^ (k + 1), false, false⟩ : ExtendedMantissa) >>> k).shiftRightOne = _
    have double : m * 2 ^ (k + 1) = 2 * m * 2 ^ k := by rw [Nat.pow_succ]; ring
    rw [double, ih]
    simp [ExtendedMantissa.shiftRightOne]

theorem log2_mul_two_pow {m : Nat} (ne : m ≠ 0) (k : Nat) : (m * 2 ^ k).log2 = m.log2 + k := by
  rw [Nat.log2_eq_iff (Nat.mul_ne_zero ne (Nat.ne_of_gt (Nat.two_pow_pos k)))]
  constructor
  · rw [Nat.pow_add]
    exact Nat.mul_le_mul_right _ (Nat.log2_self_le ne)
  · rw [Nat.add_right_comm, Nat.pow_add]
    exact Nat.mul_lt_mul_of_pos_right Nat.lt_log2_self (Nat.two_pow_pos k)

structure Normal (m : Nat) : Prop where
  low : 2 ^ 52 ≤ m
  high : m < 2 ^ 53

theorem Normal.pos {m : Nat} (h : Normal m) : 0 < m := Nat.lt_of_lt_of_le (by decide) h.low

theorem Normal.log2 {m : Nat} (h : Normal m) : m.log2 = 52 :=
  (Nat.log2_eq_iff (Nat.ne_of_gt h.pos)).2 ⟨h.low, h.high⟩

theorem shiftToTarget_normal {m : Nat} (h : Normal m) (k : Nat) {e : Int} (low : -1074 ≤ e) :
    shiftToTargetExponent Format.binary64 (m * 2 ^ k) (e - k) .exact = (⟨m, false, false⟩, e) := by
  have target : Format.binary64.targetExponent (totalExponent (m * 2 ^ k) (e - k)) = e := by
    rw [targetExponent_eq, totalExponent, log2_mul_two_pow (Nat.ne_of_gt h.pos), h.log2]
    omega
  have amount : (e - (e - k)).toNat = k := by omega
  rw [shiftToTargetExponent, target, shiftToExponent, amount]
  exact congrArg₂ Prod.mk (shiftRight_exact m k) (by omega)

/-- Zeros behind a mantissa of 53 bits go away in rounding, and nothing else does. -/
theorem round_normal {m : Nat} (h : Normal m) (s : Sign) (k : Nat) {e : Int} (low : -1074 ≤ e) :
    roundWithAccuracy Format.binary64 s (m * 2 ^ k) (e - k) .exact = .finite s m e h.pos := by
  have again := shiftToTarget_normal h 0 low
  rw [Nat.pow_zero, Nat.mul_one, Int.ofNat_zero, Int.sub_zero] at again
  have rounded : (⟨m, false, false⟩ : ExtendedMantissa).roundedMantissa = m := rfl
  rw [roundWithAccuracy, shiftToTarget_normal h k low]
  dsimp only
  rw [rounded, again]
  exact dif_neg (Nat.ne_of_gt h.pos)

theorem ofBitVec_unpackSign (s : Sign) (exponent : BitVec 11) (mantissa : BitVec 52) :
    Sign.ofBitVec (unpackSign (packComponents Format.binary64 s exponent mantissa)) = s := by
  have bits : unpackSign (packComponents Format.binary64 s exponent mantissa) = s.toBitVec := by
    ext i hi
    have first : i = 0 := by omega
    subst first
    delta unpackSign
    simp only [packComponents, BitVec.extractLsb, BitVec.getElem_cast,
      BitVec.getElem_extractLsb', BitVec.getLsbD_append]
    simp [BitVec.getLsbD_eq_getElem]
  rw [bits]
  cases s <;> rfl

theorem finite_congr {s s' : Sign} {m m' : Nat} {e e' : Int} {positive : 0 < m}
    (positive' : 0 < m') (sign : s = s') (mantissa : m = m') (exponent : e = e') :
    UnpackedFloat.finite s m e positive = .finite s' m' e' positive' := by
  subst sign mantissa exponent
  rfl

theorem unpack_pack_normal {m : Nat} (h : Normal m) (s : Sign) {e : Int} (low : -1074 ≤ e)
    (high : e ≤ 971) : (Float.Model.pack (.finite s m e h.pos)).unpack = .finite s m e h.pos := by
  have bits : m.log2 + 1 = Format.binary64.mantissaBits := by
    rw [h.log2]
    rfl
  have size : (e + 1023 + 52).toNat < 2047 ∧ 0 < (e + 1023 + 52).toNat := by omega
  have packed : UnpackedFloat.pack Format.binary64 (.finite s m e h.pos) =
      packComponents Format.binary64 s (BitVec.ofNat 11 (e + 1023 + 52).toNat)
        (BitVec.ofNat 52 m) := by
    unfold UnpackedFloat.pack
    simp only [exponentBias_eq]
    rw [if_neg (by omega), if_pos bits]
    rfl
  have biased : (BitVec.ofNat 11 (e + 1023 + 52).toNat).toNat = (e + 1023 + 52).toNat := by
    rw [BitVec.toNat_ofNat]
    exact Nat.mod_eq_of_lt (by omega)
  have implicit : (1#1 ++ BitVec.ofNat 52 m).toNat = m := by
    have low := h.low
    have high := h.high
    rw [append_implicit, BitVec.toNat_ofNat, fractions]
    omega
  change UnpackedFloat.unpack Format.binary64 (UnpackedFloat.pack Format.binary64 _) = _
  rw [packed]
  unfold UnpackedFloat.unpack
  dsimp only
  rw [if_neg, if_neg]
  · refine finite_congr h.pos (ofBitVec_unpackSign ..) ?_ ?_
    · rw [unpackMantissa_packComponents]
      exact implicit
    · rw [unpackExponent_packComponents]
      change ((BitVec.ofNat 11 (e + 1023 + 52).toNat).toNat : Int) - (1023 + 52) = e
      omega
  · rw [unpackExponent_packComponents, ← BitVec.toNat_inj, biased]
    exact Nat.ne_of_gt size.2
  · rw [unpackExponent_packComponents, ← BitVec.toNat_inj, biased]
    exact Nat.ne_of_lt size.1

section

variable {n m : Nat}

theorem log2_short (positive : 0 < n) (short : n < 2 ^ 53) : n.log2 ≤ 52 := by
  have := (Nat.log2_lt (Nat.ne_of_gt positive)).2 short
  omega

theorem exists_normal (positive : 0 < n) (h : Representable n) :
    ∃ m, Normal m ∧ m * 2 ^ n.log2 = n * 2 ^ 52 := by
  obtain ⟨a, k, small, rfl⟩ := h
  have ne : a ≠ 0 := by
    rintro rfl
    simp at positive
  have short : a.log2 ≤ 52 := by
    have := (Nat.log2_lt ne).2 small
    omega
  obtain ⟨rest, fill⟩ := Nat.exists_eq_add_of_le short
  refine ⟨a * 2 ^ rest, ⟨?_, ?_⟩, ?_⟩
  · rw [fill, Nat.pow_add]
    exact Nat.mul_le_mul_right _ (Nat.log2_self_le ne)
  · have top : 2 ^ 53 = 2 ^ (a.log2 + 1) * 2 ^ rest := by
      rw [← Nat.pow_add]
      congr 1
      omega
    rw [top]
    exact Nat.mul_lt_mul_of_pos_right Nat.lt_log2_self (Nat.two_pow_pos rest)
  · rw [log2_mul_two_pow ne, fill]
    ring

theorem value_filled (same : m * 2 ^ n.log2 = n * 2 ^ 52) :
    (m * 2 ^ ((n.log2 : Int) - 52) : ℚ) = n := by
  have cast : (m * 2 ^ n.log2 : ℚ) = n * 2 ^ 52 := by exact_mod_cast same
  rw [zpow_sub₀ (by norm_num), zpow_natCast, ← mul_div_assoc, cast]
  norm_num

theorem unpack_one : (Float.ofBits 0x3FF0000000000000).toModel.unpack =
    .finite .positive (2 ^ 52) (-52) (by decide) :=
  unpack_pack_normal ⟨by decide, by decide⟩ .positive (by decide) (by decide)

theorem ofNat_normal (normal : Normal m) (positive : 0 < n) (short : n < 2 ^ 53)
    (same : m * 2 ^ n.log2 = n * 2 ^ 52) :
    UnpackedFloat.ofNat Format.binary64 n = .finite .positive m (n.log2 - 52) normal.pos := by
  have log := log2_short positive short
  obtain ⟨rest, fill⟩ := Nat.exists_eq_add_of_le log
  have shifted : n <<< rest = m := by
    rw [Nat.shiftLeft_eq]
    refine Nat.eq_of_mul_eq_mul_right (Nat.two_pow_pos n.log2) ?_
    rw [same, fill]
    ring
  have target : Format.binary64.targetExponent (totalExponent n 0) = (n.log2 : Int) - 52 := by
    rw [targetExponent_eq, totalExponent]
    omega
  have amount : (0 - ((n.log2 : Int) - 52)).toNat = rest := by omega
  have rounded := round_normal normal .positive 0 (e := (n.log2 : Int) - 52) (by omega)
  rw [Nat.pow_zero, Nat.mul_one, Int.ofNat_zero, Int.sub_zero] at rounded
  have exponent : (0 : Int) - rest = n.log2 - 52 := by omega
  have whole : UnpackedFloat.ofNat Format.binary64 n =
      UnpackedFloat.round Format.binary64 .positive n 0 := by
    have above : compare (n : Int) 0 = .gt := Int.compare_eq_gt.2 (by omega)
    unfold UnpackedFloat.ofNat UnpackedFloat.ofInt UnpackedFloat.normalize
    rw [above]
    rfl
  have round : UnpackedFloat.round Format.binary64 .positive n 0 =
      roundWithAccuracy Format.binary64 .positive (n <<< rest) (0 - rest) .exact := by
    rw [← amount, ← target]
    rfl
  rw [whole, round, shifted, exponent]
  exact rounded

theorem ofScientific_normal (normal : Normal m) (positive : 0 < n) (bits : n < 2 ^ 64)
    (same : m * 2 ^ n.log2 = n * 2 ^ 52) :
    (Float.ofScientific n false 0).toModel.unpack =
      .finite .positive m (n.log2 - 52) normal.pos := by
  have log : n.log2 < 64 := (Nat.log2_lt (Nat.ne_of_gt positive)).2 bits
  have packed := unpack_pack_normal normal .positive (e := (n.log2 : Int) - 52) (by omega)
    (by omega)
  -- A short number is converted and multiplied by one, a long one is shifted up first.
  by_cases short : n < 2 ^ 53
  · have word : n.toUInt64.toNat = n := UInt64.toNat_ofNat_of_lt bits
    have product := round_normal normal (.positive * .positive) 52 (e := (n.log2 : Int) - 52)
      (by omega)
    rw [ofScientific_short short, word, ofNat_normal normal positive short same, packed, unpack_one]
    change (Float.Model.pack (roundWithAccuracy Format.binary64 (.positive * .positive)
      (m * 2 ^ 52) ((n.log2 : Int) - 52 + -52) .exact)).unpack = _
    rw [← Int.sub_eq_add_neg, ← packed]
    exact congrArg (fun f => (Float.Model.pack f).unpack) product
  · have product := round_normal normal (.positive * .positive) (n.log2 + 1)
      (e := (n.log2 : Int) - 52) (by omega)
    have shifted : (n <<< 53) * 10 ^ 0 = m * 2 ^ (n.log2 + 1) := by
      rw [Nat.shiftLeft_eq, Nat.pow_succ 2 n.log2, ← Nat.mul_assoc, same]
      ring
    have exponent : (-53 + 0 : Int) = (n.log2 : Int) - 52 - (n.log2 + 1 : Nat) := by omega
    rw [ofScientific_long (by omega), shifted, exponent, product]
    exact packed

end

theorem value_of_unpack {x : Float} {s : Sign} {m : Nat} {e : Int} {positive : 0 < m}
    (h : x.toModel.unpack = .finite s m e positive) :
    (parts x).value = if isNegative s then -(m * 2 ^ e : ℚ) else m * 2 ^ e := by
  have unpacked := partsOfBits_unpack x.toBits.toBitVec
  change UnpackedFloat.unpack Format.binary64 x.toBits.toBitVec = _ at h
  rw [h] at unpacked
  obtain ⟨narrow, same⟩ := unpacked
  change (partsOfBits x.toBits.toBitVec.toNat).value = _
  rw [same]
  cases isNegative s <;> rfl

theorem parts_finite {x : Float} (h : x.isFinite = true) :
    ∃ negative m, parts x = .finite negative m ∧ m.mantissa < 2 ^ 53 := by
  have unpacked := partsOfBits_unpack x.toBits.toBitVec
  have small : ∀ negative m, parts x = .finite negative m → m.mantissa < 2 ^ 53 := by
    intro negative m same
    have bound : x.toBits.toNat % fractions < fractions := Nat.mod_lt _ (by decide)
    unfold parts partsOfBits at same
    dsimp only at same
    split at same
    · split at same <;> cases same
    · split at same
      · cases same
        exact Nat.lt_trans bound (by decide)
      · cases same
        exact Nat.add_lt_add_left bound fractions
  change (UnpackedFloat.unpack Format.binary64 x.toBits.toBitVec).isFinite = true at h
  cases form : UnpackedFloat.unpack Format.binary64 x.toBits.toBitVec with
  | infinity | notANumber =>
    rw [form] at h
    cases h
  | zero s =>
    rw [form] at unpacked
    exact ⟨_, _, unpacked, small _ _ unpacked⟩
  | finite s m e positive =>
    rw [form] at unpacked
    obtain ⟨narrow, same⟩ := unpacked
    exact ⟨_, _, same, small _ _ same⟩

theorem representable_of_value {m : Magnitude} {n : Nat} (small : m.mantissa < 2 ^ 53)
    (same : m.value = n) : Representable n := by
  rw [Magnitude.value] at same
  rcases Int.eq_nat_or_neg m.exponent with ⟨k, up | down⟩
  · rw [up, zpow_natCast] at same
    exact ⟨m.mantissa, k, small, by exact_mod_cast same.symm⟩
  · rw [down, zpow_neg, zpow_natCast, ← div_eq_mul_inv,
      div_eq_iff (pow_ne_zero k two_ne_zero)] at same
    have whole : m.mantissa = n * 2 ^ k := by exact_mod_cast same
    -- A negative exponent only takes away from a mantissa that is short already.
    have below : n ≤ n * 2 ^ k := Nat.le_mul_of_pos_right n (Nat.two_pow_pos k)
    exact ⟨n, 0, by omega, by simp⟩

theorem value_ofScientific {n : Nat} (positive : 0 < n) (bits : n < 2 ^ 64)
    (h : Representable n) :
    (parts (Float.ofScientific n false 0)).value = n ∧
      (parts (-Float.ofScientific n false 0)).value = -n := by
  obtain ⟨m, normal, same⟩ := exists_normal positive h
  have unpacked := ofScientific_normal normal positive bits same
  have log : n.log2 < 64 := (Nat.log2_lt (Nat.ne_of_gt positive)).2 bits
  have negated : (-Float.ofScientific n false 0).toModel.unpack =
      .finite .negative m (n.log2 - 52) normal.pos := by
    change (Float.Model.pack (Float.ofScientific n false 0).toModel.unpack.neg).unpack = _
    rw [unpacked]
    exact unpack_pack_normal normal .negative (by omega) (by omega)
  rw [value_of_unpack unpacked, value_of_unpack negated]
  exact ⟨value_filled same, congrArg Neg.neg (value_filled same)⟩

end DesignTokens.Number

namespace DesignTokens.Json.Number

open DesignTokens.Number

def value : Number → ℚ
  | whole n _ => n
  | real x _ => (parts x).value

def Binary : Number → Prop
  | whole n _ => Representable n.natAbs
  | real _ _ => True

variable {n : Int} {small : isSmall n = true}

theorem natAbs_lt (small : isSmall n = true) : n.natAbs < 2 ^ 64 := by
  simp only [isSmall, Bool.and_eq_true, decide_eq_true_eq] at small
  omega

theorem toFloat_whole (ne : n ≠ 0) : (whole n small).toFloat =
    if n < 0 then -Float.ofScientific n.natAbs false 0
    else Float.ofScientific n.natAbs false 0 := by
  have size : decimalLength n.natAbs ≤ 20 :=
    (Nat.length_toDigits_le_iff (by omega) (by omega)).2 (by have := natAbs_lt small; omega)
  have nonzero : ¬(n.natAbs = 0 ∨ (decimalLength n.natAbs : Int) + 0 < -330) := by omega
  have inside : ¬330 < (decimalLength n.natAbs : Int) + 0 := by omega
  rw [toFloat, Decimal.toFloat]
  simp only [nonzero, inside, if_false, decide_eq_true_eq]
  rfl

/-- As a binary64 number a number keeps its value if and only if there is one with that value. -/
theorem value_toFloat (n : Number) : (parts n.toFloat).value = n.value ↔ n.Binary := by
  cases n with
  | real x finite => exact iff_of_true rfl trivial
  | whole n small =>
    by_cases zero : n = 0
    · subst zero
      have start : (parts (whole 0 small).toFloat).value = 0 := by
        have none : parts (Decimal.toFloat ⟨false, 0, 0⟩) = .finite false ⟨0, -1074, false⟩ := by
          decide
        change (parts (Decimal.toFloat ⟨false, 0, 0⟩)).value = 0
        rw [none]
        simp [Parts.value, Magnitude.value]
      exact iff_of_true start ⟨0, 0, by decide, rfl⟩
    constructor
    · intro same
      obtain ⟨negative, m, isParts, bound⟩ := parts_finite (toFloat_finite (whole n small))
      have size : m.value = |(n : ℚ)| := by
        rw [isParts] at same
        change _ = (n : ℚ) at same
        have least := m.value_nonneg
        rw [← same]
        cases negative with
        | false => exact (abs_of_nonneg least).symm
        | true => rw [Parts.value, abs_neg, abs_of_nonneg least]
      refine representable_of_value bound ?_
      rw [size, Nat.cast_natAbs, Int.cast_abs]
    · intro representable
      obtain ⟨above, below⟩ :=
        value_ofScientific (Int.natAbs_pos.2 zero) (natAbs_lt small) representable
      rw [toFloat_whole zero, value]
      split
      · rw [below, Nat.cast_natAbs, abs_of_neg ‹_›]
        simp
      · rw [above, Nat.cast_natAbs, abs_of_nonneg (by omega)]

end DesignTokens.Json.Number
