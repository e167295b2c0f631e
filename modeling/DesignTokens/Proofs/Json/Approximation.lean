import DesignTokens.Proofs.Number.Numeral
import DesignTokens.Proofs.Number.Short

/-!
What is read from a numeral. A whole number of 64 bits is read as it is. Of any other numeral the
digits count as far as 64 bits hold them, and a short one is read as the nearest binary64 number.
-/

namespace DesignTokens.Json

open DesignTokens.Number

variable {numeral : List Char} {d : Decimal}

theorem le_foldl (n : Nat) (digits : List Char) :
    n ≤ digits.foldl (fun n c => 10 * n + digitValue c) n := by
  induction digits generalizing n with
  | nil => exact Nat.le_refl n
  | cons c rest ih =>
    have := ih (10 * n + digitValue c)
    rw [List.foldl_cons]
    omega

theorem readDigits_of_lt {n : Nat} {digits : List Char}
    (fits : digits.foldl (fun n c => 10 * n + digitValue c) n < 0x10000000000000000) :
    readDigits n digits = (digits.foldl (fun n c => 10 * n + digitValue c) n, []) := by
  induction digits generalizing n with
  | nil => rfl
  | cons c rest ih =>
    rw [List.foldl_cons] at fits ⊢
    have next := le_foldl (10 * n + digitValue c) rest
    rw [readDigits, if_pos (by omega), ih fits]

theorem significand_text (n : DesignTokens.Number.Numeral isDigit) : significand n.text =
    ((readDigits (readDigits 0 n.mantissa.whole).1 (n.mantissa.fraction.getD [])).1,
      (readDigits 0 n.mantissa.whole).2.length +
        (readDigits (readDigits 0 n.mantissa.whole).1 (n.mantissa.fraction.getD [])).2.length) := by
  have signed := n.takeSign isDigit_class []
  obtain ⟨stop, point⟩ := n.exponentText_stops isDigit_class
  rw [List.append_nil, List.append_nil] at signed
  rw [significand, signed]
  generalize n.exponentText = tail at stop point
  obtain ⟨whole, fraction, all, ne⟩ := n.mantissa
  have inWhole : ∀ c ∈ whole, isDigit c = true := fun c hc => all c (List.mem_append_left _ hc)
  cases fraction with
  | none =>
    obtain ⟨taken, left⟩ := takeWhile_stop inWhole stop
    simp only [Mantissa.text, List.append_nil, taken, left]
    split
    · exact absurd (point '.' rfl) (by simp)
    · rfl
  | some digits =>
    have inFraction : ∀ c ∈ digits, isDigit c = true :=
      fun c hc => all c (List.mem_append_right _ hc)
    obtain ⟨taken, left⟩ := takeWhile_stop (t := '.' :: (digits ++ tail)) inWhole
      (by rintro c ⟨⟩; rfl)
    obtain ⟨taken', -⟩ := takeWhile_stop inFraction stop
    simp only [Mantissa.text, List.append_assoc, List.cons_append, taken, left, taken']
    rfl

theorem significand_of_lt (read : Decimal.parse? numeral = some d)
    (fits : d.digits < 0x10000000000000000) : significand numeral = (d.digits, 0) := by
  obtain ⟨n, rfl, rfl⟩ := Decimal.parse?_eq_some_iff.1 read
  have all : n.decimal.digits = (n.mantissa.fraction.getD []).foldl
      (fun n c => 10 * n + digitValue c) (natOfDigits n.mantissa.whole) := List.foldl_append
  rw [all] at fits ⊢
  have above : natOfDigits n.mantissa.whole < 0x10000000000000000 :=
    Nat.lt_of_le_of_lt (le_foldl ..) fits
  have first : readDigits 0 n.mantissa.whole = (natOfDigits n.mantissa.whole, []) :=
    readDigits_of_lt above
  rw [significand_text, first]
  dsimp only
  rw [readDigits_of_lt fits]
  rfl

theorem powerOfTen_exact : ∀ e (_ : e < Float.exactlyRepresentablePowersOfTen.size),
    powerOfTen e = Float.exactlyRepresentablePowersOfTen[e] := by
  decide +kernel

theorem scale_eq_ofScientific (short : d.Short) (positive : 0 < d.digits) :
    scale d.digits d.exponent =
      Float.ofScientific d.digits (d.exponent < 0) d.exponent.natAbs := by
  have few := short.exponent
  have power := powerOfTen_exact _ (Nat.lt_succ_of_le few)
  unfold scale Float.ofScientific
  rw [dif_pos ⟨short.digits, few⟩, if_neg (Nat.ne_of_gt positive)]
  simp only [Decimal.toFloat_word positive short.digits]
  by_cases below : d.exponent < 0
  · rw [if_neg (by omega), if_pos (by rw [largestPower]; omega), if_pos (decide_eq_true below)]
    exact congrArg _ power
  · rw [if_pos (by omega), if_neg (by simpa using below)]
    exact congrArg _ power

/-- A short numeral is read as the nearest number. -/
theorem approximate_eq_toFloat (read : Decimal.parse? numeral = some d) (short : d.Short) :
    approximate numeral d = d.toFloat := by
  have fits : d.digits < 0x10000000000000000 := by have := short.digits; omega
  rw [approximate, significand_of_lt read fits]
  by_cases zero : d.digits = 0
  · simp [scale, Decimal.toFloat, zero]
  · have positive := Nat.pos_of_ne_zero zero
    rw [Decimal.toFloat_short short positive, ← scale_eq_ofScientific short positive]
    simp

namespace Number

def Marked (numeral : List Char) : Prop := ∃ c ∈ numeral, c = '.' ∨ c = 'e' ∨ c = 'E'

/-- What a numeral is read as: a whole number of 64 bits, if it is written as one, as itself, and
    any other number as a binary64 number. A short one is rounded once, and keeps its value if and
    only if binary64 has it. -/
inductive Reads (numeral : List Char) : Number → Prop
  | whole {d : Decimal} {n : Int} {small : isSmall n = true} :
      Decimal.parse? numeral = some d → ¬Marked numeral → ¬(d.negative = true ∧ d.digits = 0) →
        d.value = n → Reads numeral (.whole n small)
  | real {d : Decimal} {x : Float} {finite : x.isFinite = true} :
      Decimal.parse? numeral = some d →
        (Marked numeral ∨ (d.negative = true ∧ d.digits = 0) ∨
          ∀ n : Int, d.value = n → isSmall n = false) →
        x = approximate numeral d →
          (d.Short → x = d.toFloat ∧ ((parts x).value = d.value ↔ d.Binary)) →
            Reads numeral (.real x finite)

theorem marked_iff : Marked numeral ↔
    numeral.any (fun c => c = '.' || c = 'e' || c = 'E') = true := by
  simp [Marked, or_assoc]

theorem exponent_of_not_marked (read : Decimal.parse? numeral = some d) (h : ¬Marked numeral) :
    d.exponent = 0 := by
  obtain ⟨⟨sign, ⟨whole, fraction, all, ne⟩, exponent, isSign⟩, rfl, rfl⟩ :=
    Decimal.parse?_eq_some_iff.1 read
  cases fraction with
  | some digits =>
    refine absurd ⟨'.', ?_, .inl rfl⟩ h
    simp [Numeral.text, Mantissa.text]
  | none =>
    cases exponent with
    | some e =>
      refine absurd ⟨e.letter, ?_, .inr e.isLetter⟩ h
      simp [Numeral.text, Numeral.exponentText, Exponent.text]
    | none => rfl

theorem value_of_not_marked (read : Decimal.parse? numeral = some d) (h : ¬Marked numeral) :
    d.value = ((if d.negative then -(d.digits : Int) else d.digits : Int) : ℚ) := by
  rw [Decimal.value, exponent_of_not_marked read h]
  split <;> simp

theorem ofFloat?_eq_some {x : Float} {n : Number} (h : ofFloat? x = some n) :
    ∃ finite, n = .real x finite := by
  unfold ofFloat? at h
  split at h
  · cases h
    exact ⟨_, rfl⟩
  · cases h

theorem reads_of_ofNumeral? {n : Number} (h : ofNumeral? numeral = some n) : Reads numeral n := by
  unfold ofNumeral? at h
  split at h
  · cases h
  next d read =>
  have real {n : Number} (kind : Marked numeral ∨ (d.negative = true ∧ d.digits = 0) ∨
      ∀ n : Int, d.value = n → isSmall n = false)
      (of : ofFloat? (approximate numeral d) = some n) : Reads numeral n := by
    obtain ⟨finite, rfl⟩ := ofFloat?_eq_some of
    refine .real read kind rfl fun short => ?_
    have same := approximate_eq_toFloat read short
    rw [same] at finite ⊢
    exact ⟨rfl, Decimal.value_toFloat short finite⟩
  dsimp only at h
  have value := value_of_not_marked read
  generalize (if d.negative then -(d.digits : Int) else d.digits) = k at h value
  split at h
  · split at h
    · next other =>
      rw [Bool.or_eq_true, ← marked_iff, Bool.and_eq_true, decide_eq_true_eq] at other
      exact real (other.imp_right .inl) h
    · next other =>
      rw [Bool.or_eq_true, ← marked_iff, Bool.and_eq_true, decide_eq_true_eq, not_or] at other
      cases h
      exact .whole read other.1 other.2 (value other.1)
  · next large =>
    by_cases marked : Marked numeral
    · exact real (.inl marked) h
    refine real (.inr (.inr fun n same => ?_)) h
    rw [value marked, Int.cast_inj] at same
    rw [← same]
    exact Bool.eq_false_of_not_eq_true large

end Number

end DesignTokens.Json
