import DesignTokens.Proofs.Number.Exact

namespace DesignTokens.Number

open Float.Model Float.Model.UnpackedFloat

namespace Decimal

def value (d : Decimal) : ℚ := (if d.negative then -1 else 1) * (d.digits * 10 ^ d.exponent)

structure Short (d : Decimal) : Prop where
  digits : d.digits < 2 ^ 53
  exponent : d.exponent.natAbs ≤ 22

/-- Binary64 has the value, its range left aside. -/
def Binary (d : Decimal) : Prop := ∃ (m : Nat) (e : Int), m < 2 ^ 53 ∧ |d.value| = m * 2 ^ e

end Decimal

def Moderate (x : Float) (q : ℚ) : Prop :=
  ∃ (m : Nat) (e : Int) (normal : Normal m),
    x.toModel.unpack = .finite .positive m e normal.pos ∧ q = m * 2 ^ e ∧ -52 ≤ e ∧ e ≤ 21

theorem aligned {a m : Nat} {i e : Int} (same : (a * 2 ^ i : ℚ) = m * 2 ^ e)
    (below : m < 2 * a) : ∃ k : Nat, a = m * 2 ^ k ∧ i = e - k := by
  rcases le_total i e with le | le
  · obtain ⟨k, rfl⟩ := Int.le.dest le
    refine ⟨k, ?_, by omega⟩
    rw [zpow_add₀ two_ne_zero, mul_left_comm, mul_comm, zpow_natCast] at same
    exact_mod_cast mul_left_cancel₀ (zpow_ne_zero i two_ne_zero) same
  · obtain ⟨k, rfl⟩ := Int.le.dest le
    rw [zpow_add₀ two_ne_zero, mul_left_comm, mul_comm (m : ℚ), zpow_natCast] at same
    have whole : a * 2 ^ k = m := by
      exact_mod_cast mul_left_cancel₀ (zpow_ne_zero e two_ne_zero) same
    cases k with
    | zero => exact ⟨0, by simpa using whole, by simp⟩
    | succ k =>
      have double : a * 2 ≤ a * 2 ^ (k + 1) := Nat.mul_le_mul_left a (Nat.le_self_pow (by omega) 2)
      omega

def Valued (x : Float) (q : ℚ) : Prop := (parts x).value = q ∧ (parts (-x)).value = -q

section

variable {x y : Float} {p q : ℚ} {m : Nat} {e : Int}

theorem valued_of_pack (normal : Normal m) (low : -1074 ≤ e) (high : e ≤ 971)
    (h : x.toModel = Float.Model.pack (.finite .positive m e normal.pos)) :
    Valued x (m * 2 ^ e) := by
  have unpacked : x.toModel.unpack = .finite .positive m e normal.pos := by
    rw [h, unpack_pack_normal normal .positive low high]
  have negated : (-x).toModel.unpack = .finite .negative m e normal.pos := by
    change (Float.Model.pack x.toModel.unpack.neg).unpack = _
    rw [unpacked]
    exact unpack_pack_normal normal .negative low high
  exact ⟨value_of_unpack unpacked, value_of_unpack negated⟩

theorem Moderate.mul (hx : Moderate x p) (hy : Moderate y q) (normal : Normal m)
    (same : p * q = m * 2 ^ e) : Valued (x * y) (p * q) := by
  obtain ⟨a, i, normalA, unpackX, rfl, lowI, highI⟩ := hx
  obtain ⟨b, j, normalB, unpackY, rfl, lowJ, highJ⟩ := hy
  have large : 2 ^ 52 * 2 ^ 52 ≤ a * b := Nat.mul_le_mul normalA.low normalB.low
  have small : a * b < 2 ^ 53 * 2 ^ 53 := Nat.mul_lt_mul'' normalA.high normalB.high
  have high := normal.high
  have product : ((a * b : Nat) * 2 ^ (i + j) : ℚ) = m * 2 ^ e := by
    rw [← same, zpow_add₀ two_ne_zero]
    push_cast
    ring
  obtain ⟨k, split, exponent⟩ := aligned product (by omega)
  have few : k < 54 := by
    by_contra many
    have : 2 ^ 52 * 2 ^ 54 ≤ m * 2 ^ k :=
      Nat.mul_le_mul normal.low (Nat.pow_le_pow_right (by omega) (by omega))
    omega
  have rounded := round_normal normal (.positive * .positive) k (e := e) (by omega)
  rw [same]
  refine valued_of_pack normal (by omega) (by omega) ?_
  change Float.Model.pack (UnpackedFloat.mul Format.binary64 x.toModel.unpack
    y.toModel.unpack) = _
  rw [unpackX, unpackY]
  change Float.Model.pack (roundWithAccuracy Format.binary64 (.positive * .positive)
    (a * b) (i + j) .exact) = _
  rw [split, exponent, rounded]
  rfl

theorem divCore_normal {a b : Nat} {i j : Int} (normalA : Normal a) (normalB : Normal b)
    (low : -1021 ≤ i - j) : divCore Format.binary64 a i b j =
      (a <<< 53 / b, i - j - 53, accuracyOfFraction (a <<< 53 % b) b) := by
  have target : min (i - j) (Format.binary64.targetExponent
      (totalExponent a i - totalExponent b j)) = i - j - 53 := by
    rw [targetExponent_eq, totalExponent, totalExponent, normalA.log2, normalB.log2]
    omega
  have amount : (i - j - (i - j - 53)).toNat = 53 := by omega
  simp only [divCore, target, amount]

theorem Moderate.div (hx : Moderate x p) (hy : Moderate y q) (normal : Normal m)
    (same : p / q = m * 2 ^ e) : Valued (x / y) (p / q) := by
  obtain ⟨a, i, normalA, unpackX, rfl, lowI, highI⟩ := hx
  obtain ⟨b, j, normalB, unpackY, rfl, lowJ, highJ⟩ := hy
  have high := normal.high
  have lowA := normalA.low
  have highA := normalA.high
  have lowB := normalB.low
  have highB := normalB.high
  have quotient : ((a * 2 ^ 53 : Nat) * 2 ^ (i - j - 53) : ℚ) = (b * m : Nat) * 2 ^ e := by
    have nonzero : (b * 2 ^ j : ℚ) ≠ 0 :=
      mul_ne_zero (by exact_mod_cast Nat.ne_of_gt normalB.pos) (zpow_ne_zero j two_ne_zero)
    have moved : (a * 2 ^ i : ℚ) = (a * 2 ^ 53 : Nat) * 2 ^ (i - j - 53) * 2 ^ j := by
      have split : i = (53 : Nat) + (i - j - 53) + j := by omega
      conv_lhs => rw [split, zpow_add₀ two_ne_zero, zpow_add₀ two_ne_zero, zpow_natCast]
      rw [Nat.cast_mul, Nat.cast_pow, Nat.cast_ofNat]
      ring
    refine mul_right_cancel₀ (zpow_ne_zero j two_ne_zero) ?_
    rw [← moved, (div_eq_iff nonzero).1 same]
    push_cast
    ring
  have product : b * m < 2 ^ 53 * 2 ^ 53 := Nat.mul_lt_mul'' highB high
  obtain ⟨k, split, exponent⟩ := aligned quotient (by omega)
  have few : k < 2 := by
    by_contra many
    have : 2 ^ 52 * 2 ^ 52 * 2 ^ 2 ≤ b * m * 2 ^ k :=
      Nat.mul_le_mul (Nat.mul_le_mul lowB normal.low) (Nat.pow_le_pow_right (by omega) (by omega))
    omega
  have rounded := round_normal normal (.positive / .positive) k (e := e) (by omega)
  have whole : a <<< 53 = b * (m * 2 ^ k) := by rw [Nat.shiftLeft_eq, split, Nat.mul_assoc]
  rw [same]
  refine valued_of_pack normal (by omega) (by omega) ?_
  change Float.Model.pack (UnpackedFloat.div Format.binary64 x.toModel.unpack
    y.toModel.unpack) = _
  rw [unpackX, unpackY]
  change Float.Model.pack (match divCore Format.binary64 a i b j with
    | (m, e, accuracy) =>
      roundWithAccuracy Format.binary64 (.positive / .positive) m e accuracy) = _
  rw [divCore_normal normalA normalB (by omega), whole, Nat.mul_div_cancel_left _ normalB.pos,
    Nat.mul_mod_right, exponent]
  dsimp only
  rw [accuracyOfFraction, if_pos rfl, rounded]
  rfl

end

section

variable {n : Nat}

theorem unpack_word (positive : 0 < n) (short : n < 2 ^ 53) : ∃ (m : Nat) (normal : Normal m),
    m * 2 ^ n.log2 = n * 2 ^ 52 ∧
      n.toUInt64.toFloat.toModel = Float.Model.pack
        (.finite .positive m (n.log2 - 52) normal.pos) ∧
      n.toUInt64.toFloat.toModel.unpack = .finite .positive m (n.log2 - 52) normal.pos := by
  obtain ⟨m, normal, same⟩ := exists_normal positive ⟨n, 0, short, by simp⟩
  have log := log2_short positive short
  have word : n.toUInt64.toNat = n := UInt64.toNat_ofNat_of_lt (by rw [UInt64.size]; omega)
  have model : n.toUInt64.toFloat.toModel = Float.Model.pack
      (.finite .positive m (n.log2 - 52) normal.pos) := by
    change Float.Model.pack (UnpackedFloat.ofNat Format.binary64 n.toUInt64.toNat) = _
    rw [word, ofNat_normal normal positive short same]
  refine ⟨m, normal, same, model, ?_⟩
  rw [model]
  exact unpack_pack_normal normal .positive (by omega) (by omega)

theorem moderate_word (positive : 0 < n) (short : n < 2 ^ 53) :
    Moderate n.toUInt64.toFloat n := by
  obtain ⟨m, normal, same, -, unpacked⟩ := unpack_word positive short
  have log := log2_short positive short
  exact ⟨m, n.log2 - 52, normal, unpacked, (value_filled same).symm, by omega, by omega⟩

def isWhole (n : Nat) : UnpackedFloat → Bool
  | .finite .positive m i _ => 2 ^ 52 ≤ m && m < 2 ^ 53 && -52 ≤ i && i ≤ 21 &&
    m * 2 ^ i.toNat = n * 2 ^ (-i).toNat
  | _ => false

theorem moderate_of_isWhole {x : Float} (h : isWhole n x.toModel.unpack = true) :
    Moderate x n := by
  unfold isWhole at h
  split at h
  · rename_i m i positive unpacked
    simp only [Bool.and_eq_true, decide_eq_true_eq] at h
    obtain ⟨⟨⟨⟨low, high⟩, least⟩, most⟩, same⟩ := h
    refine ⟨m, i, ⟨low, high⟩, unpacked, ?_, least, most⟩
    have cast : (m * 2 ^ i.toNat : ℚ) = n * 2 ^ (-i).toNat := by exact_mod_cast same
    have split : i = (i.toNat : Int) - (-i).toNat := by omega
    rw [split, zpow_sub₀ two_ne_zero, zpow_natCast, zpow_natCast, ← mul_div_assoc,
      eq_div_iff (pow_ne_zero _ two_ne_zero), ← cast]
  · cases h

theorem isWhole_powers : ∀ e (_ : e < Float.exactlyRepresentablePowersOfTen.size),
    isWhole (10 ^ e) Float.exactlyRepresentablePowersOfTen[e].toModel.unpack = true := by
  decide +kernel

theorem moderate_power {e : Nat} (inside : e < Float.exactlyRepresentablePowersOfTen.size) :
    Moderate Float.exactlyRepresentablePowersOfTen[e] (10 ^ e) := by
  exact_mod_cast moderate_of_isWhole (isWhole_powers e inside)

end

namespace Decimal

variable {d : Decimal}

theorem abs_value (d : Decimal) : |d.value| = d.digits * 10 ^ d.exponent := by
  have least : (0 : ℚ) ≤ d.digits * 10 ^ d.exponent :=
    mul_nonneg (Nat.cast_nonneg _) (zpow_nonneg (by norm_num) _)
  rw [value]
  split
  · rw [neg_one_mul, abs_neg, abs_of_nonneg least]
  · rw [one_mul, abs_of_nonneg least]

theorem Short.valued (short : d.Short) (positive : 0 < d.digits) {m : Nat} {i : Int}
    (normal : Normal m) (same : |d.value| = m * 2 ^ i) :
    Valued (Float.ofScientific d.digits (d.exponent < 0) d.exponent.natAbs) |d.value| := by
  have word := moderate_word positive short.digits
  have inside : d.exponent.natAbs < Float.exactlyRepresentablePowersOfTen.size :=
    Nat.lt_succ_of_le short.exponent
  have power := moderate_power inside
  unfold Float.ofScientific
  rw [dif_pos ⟨short.digits, short.exponent⟩]
  dsimp only
  by_cases below : d.exponent < 0
  · have quotient : |d.value| = d.digits / 10 ^ d.exponent.natAbs := by
      rw [abs_value, div_eq_mul_inv, ← zpow_natCast, ← zpow_neg]
      congr 2
      omega
    rw [if_pos (decide_eq_true below), quotient]
    exact word.div power normal (quotient ▸ same)
  · have product : |d.value| = d.digits * 10 ^ d.exponent.natAbs := by
      rw [abs_value, ← zpow_natCast]
      congr 2
      omega
    rw [if_neg (by simpa using below), product]
    exact word.mul power normal (product ▸ same)

theorem toFloat_short (short : d.Short) (positive : 0 < d.digits) :
    d.toFloat = if d.negative then
        -Float.ofScientific d.digits (d.exponent < 0) d.exponent.natAbs
      else Float.ofScientific d.digits (d.exponent < 0) d.exponent.natAbs := by
  have size : decimalLength d.digits ≤ 16 :=
    (Nat.length_toDigits_le_iff (by omega) (by omega)).2 (by have := short.digits; omega)
  have few := short.exponent
  rw [toFloat]
  simp only [show ¬(d.digits = 0 ∨ (decimalLength d.digits : Int) + d.exponent < -330) by omega,
    show ¬330 < (decimalLength d.digits : Int) + d.exponent by omega, if_false]

theorem toFloat_word {n : Nat} (positive : 0 < n) (short : n < 2 ^ 53) :
    toFloat ⟨false, n, 0⟩ = n.toUInt64.toFloat := by
  obtain ⟨m, normal, same, model, unpacked⟩ := unpack_word positive short
  have log := log2_short positive short
  have rounded := round_normal normal (.positive * .positive) 52 (e := (n.log2 : Int) - 52)
    (by omega)
  have product : (n.toUInt64.toFloat * Float.ofBits 0x3FF0000000000000).toModel =
      n.toUInt64.toFloat.toModel := by
    change Float.Model.pack (UnpackedFloat.mul Format.binary64 n.toUInt64.toFloat.toModel.unpack
      (Float.ofBits 0x3FF0000000000000).toModel.unpack) = _
    rw [unpacked, unpack_one, model]
    exact congrArg Float.Model.pack rounded
  have whole : Short ⟨false, n, 0⟩ := ⟨short, Nat.zero_le 22⟩
  rw [toFloat_short whole positive]
  change Float.ofScientific n false 0 = _
  unfold Float.ofScientific
  rw [dif_pos ⟨short, by omega⟩]
  exact congrArg Float.ofModel product

theorem value_toFloat_zero (zero : d.digits = 0) : (parts d.toFloat).value = d.value := by
  have none : d.value = 0 := by rw [value, zero]; simp
  have zeros : d.toFloat = if d.negative then -0 else 0 := by simp [toFloat, zero]
  have start : parts 0 = .finite false ⟨0, -1074, false⟩ ∧
      parts (-0) = .finite true ⟨0, -1074, false⟩ := by decide +kernel
  rw [zeros, none]
  split
  · simp [start.2, Parts.value, Magnitude.value]
  · simp [start.1, Parts.value, Magnitude.value]

/-- A short decimal number keeps its value if and only if there is a binary64 number with it. -/
theorem value_toFloat (short : d.Short) (finite : d.toFloat.isFinite = true) :
    (parts d.toFloat).value = d.value ↔ d.Binary := by
  constructor
  · intro same
    obtain ⟨negative, m, isParts, bound⟩ := parts_finite finite
    refine ⟨m.mantissa, m.exponent, bound, ?_⟩
    have least : 0 ≤ (m.mantissa : ℚ) * 2 ^ m.exponent := m.value_nonneg
    rw [← same, isParts]
    cases negative with
    | false => exact abs_of_nonneg least
    | true => exact (abs_neg _).trans (abs_of_nonneg least)
  · rintro ⟨a, i, small, same⟩
    by_cases zero : d.digits = 0
    · exact value_toFloat_zero zero
    have positive := Nat.pos_of_ne_zero zero
    have some : 0 < a := by
      refine Nat.pos_of_ne_zero fun none => ?_
      rw [abs_value, none, Nat.cast_zero, zero_mul, mul_eq_zero] at same
      exact same.elim (by exact_mod_cast zero) (zpow_ne_zero _ (by norm_num))
    obtain ⟨m, normal, filled⟩ := exists_normal some ⟨a, 0, small, by simp⟩
    have shown : |d.value| = m * 2 ^ ((a.log2 : Int) - 52 + i) := by
      rw [same, zpow_add₀ two_ne_zero, ← mul_assoc, value_filled filled]
    obtain ⟨above, below⟩ := short.valued positive normal shown
    rw [toFloat_short short positive]
    rw [abs_value] at above below
    rw [value]
    split
    · rw [below, neg_one_mul]
    · rw [above, one_mul]

end Decimal

end DesignTokens.Number
