import DesignTokens.Json.Node
import DesignTokens.Json.Number
import DesignTokens.Proofs.Number.Exact
import DesignTokens.Proofs.Number.Numeral
import Mathlib.Data.List.DropRight

namespace DesignTokens.Number

def AllDigits (s : List Char) : Prop := ∀ c ∈ s, isDigit c = true

structure Leading (s : List Char) : Prop where
  digits : AllDigits s
  head : ∃ c t, s = c :: t ∧ c ≠ '0'

variable {s t : List Char}

theorem AllDigits.append (hs : AllDigits s) (ht : AllDigits t) : AllDigits (s ++ t) :=
  List.forall_mem_append.2 ⟨hs, ht⟩

theorem AllDigits.subset (ht : AllDigits t) (h : s ⊆ t) : AllDigits s := fun c hc => ht c (h hc)

theorem zeros_digits (n : Nat) : AllDigits (zeros n) := by
  intro c hc
  rw [List.eq_of_mem_replicate hc]
  decide

theorem digitsOfNat_digits (n : Nat) : AllDigits (digitsOfNat n) := by
  intro c hc
  exact Nat.isDigit_of_mem_toDigits (by omega) (by omega) hc

theorem digitsOfNat_ne_nil (n : Nat) : digitsOfNat n ≠ [] := Nat.toDigits_ne_nil

theorem digitsOfNat_eq (n : Nat) : digitsOfNat n =
    if n < 10 then [n.digitChar] else digitsOfNat (n / 10) ++ [(n % 10).digitChar] :=
  Nat.toDigits_eq_if (by omega)

theorem digitValue_digitChar : ∀ n < 10, digitValue n.digitChar = n := by decide

theorem digitChar_ne_zero : ∀ n < 10, n ≠ 0 → n.digitChar ≠ '0' := by decide

theorem natOfDigits_concat (s : List Char) (c : Char) :
    natOfDigits (s ++ [c]) = 10 * natOfDigits s + digitValue c := by
  rw [natOfDigits, List.foldl_append]
  rfl

theorem natOfDigits_digitsOfNat (n : Nat) : natOfDigits (digitsOfNat n) = n := by
  induction n using Nat.strongRecOn with
  | ind n ih =>
    rw [digitsOfNat_eq]
    split
    · rename_i small
      simpa [natOfDigits] using digitValue_digitChar n small
    · rw [natOfDigits_concat, ih _ (by omega), digitValue_digitChar _ (by omega)]
      omega

theorem digitsOfNat_leading {n : Nat} (positive : n ≠ 0) : Leading (digitsOfNat n) := by
  refine ⟨digitsOfNat_digits n, ?_⟩
  induction n using Nat.strongRecOn with
  | ind n ih =>
    rw [digitsOfNat_eq]
    split
    · rename_i small
      exact ⟨_, [], rfl, digitChar_ne_zero n small positive⟩
    · obtain ⟨c, t, split, head⟩ := ih (n / 10) (by omega) (by omega)
      exact ⟨c, t ++ [(n % 10).digitChar], by rw [split]; rfl, head⟩

theorem Leading.stripped (h : Leading s) :
    Leading (s.reverse.dropWhile (fun c => decide (c = '0'))).reverse := by
  obtain ⟨digits, c, t, rfl, head⟩ := h
  have start : (c :: t).rdropWhile (fun c => decide (c = '0')) <+: c :: t :=
    List.rdropWhile_prefix _ _
  refine ⟨digits.subset start.subset, ?_⟩
  change ∃ d u, (c :: t).rdropWhile (fun c => decide (c = '0')) = d :: u ∧ d ≠ '0'
  cases kept : (c :: t).rdropWhile (fun c => decide (c = '0')) with
  | nil =>
    have zero := List.rdropWhile_eq_nil_iff.1 kept c (by simp)
    exact absurd (by simpa using zero) head
  | cons d u =>
    rw [kept, List.cons_prefix_cons] at start
    exact ⟨d, u, rfl, start.1 ▸ head⟩

theorem timesPower_pos {n base : Nat} (hn : 0 < n) (hb : 0 < base) (exponent : Int) :
    0 < timesPower n base exponent := Nat.mul_pos hn (Nat.pow_pos hb)

namespace Magnitude

variable {m : Magnitude}

theorem readsBack_zero (positive : m.mantissa ≠ 0) (scale : Int) : m.readsBack 0 scale = false := by
  have low : compareDecimal 0 scale (4 * m.mantissa - (if m.narrowBelow then 1 else 2))
      (m.exponent - 2) = .lt := by
    rw [compareDecimal, Nat.compare_eq_lt]
    have zero : timesPower (timesPower 0 10 scale) 2 (-(m.exponent - 2)) = 0 := by simp [timesPower]
    rw [zero]
    refine timesPower_pos (timesPower_pos ?_ (by omega) _) (by omega) _
    split <;> omega
  simp [readsBack, low]

theorem candidate?_ne_zero (positive : m.mantissa ≠ 0) {tie : Tie} {scale : Int} {digits : Nat}
    (h : m.candidate? tie scale = some digits) : digits ≠ 0 := by
  have back {n : Nat} (h : m.readsBack n scale = true) : n ≠ 0 := by
    rintro rfl
    rw [readsBack_zero positive] at h
    cases h
  simp only [candidate?] at h
  split at h
  · cases h
  · cases h
    exact back ‹_›
  · cases h
    exact Nat.succ_ne_zero _
  · rename_i lower _
    split at h <;> cases h
    · exact back lower
    · exact Nat.succ_ne_zero _
    · exact Nat.succ_ne_zero _
    · exact fun none => back lower (Nat.add_eq_zero_iff.1 none).1

theorem exactDecimal_ne_zero (positive : m.mantissa ≠ 0) : m.exactDecimal.1 ≠ 0 := by
  rw [exactDecimal]
  split <;> exact Nat.ne_of_gt (timesPower_pos (by omega) (by omega) _)

theorem shortest_leading (positive : m.mantissa ≠ 0) (tie : Tie) :
    Leading (m.shortest tie).1 := by
  refine (digitsOfNat_leading ?_).stripped
  cases found : (List.range 17).findSome? fun (n : Nat) =>
      (m.candidate? tie (m.decimalScale - (n + 1))).map fun digits =>
        (digits, m.decimalScale - (n + 1)) with
  | none => exact exactDecimal_ne_zero positive
  | some chosen =>
    obtain ⟨n, -, h⟩ := List.exists_of_findSome?_eq_some found
    obtain ⟨digits, candidate, rfl⟩ := Option.map_eq_some_iff.1 h
    exact candidate?_ne_zero positive candidate

end Magnitude

end DesignTokens.Number

namespace DesignTokens.Json

open DesignTokens.Number

def readMinus (s : List Char) : List Char × List Char :=
  match s with
  | '-' :: rest => (['-'], rest)
  | _ => ([], s)

def readWhole (s : List Char) : Option (List Char × List Char) :=
  match s with
  | '0' :: rest => some (['0'], rest)
  | _ => takeDigits s

def readFraction (s : List Char) : Option (List Char × List Char) :=
  match s with
  | '.' :: rest => (takeDigits rest).map fun (digits, rest) => ('.' :: digits, rest)
  | _ => some ([], s)

def readExponent (s : List Char) : Option (List Char × List Char) :=
  match s with
  | e :: rest =>
    if e = 'e' || e = 'E' then
      let (sign, rest) := takeSign rest
      (takeDigits rest).map fun (digits, rest) => (e :: sign ++ digits, rest)
    else some ([], s)
  | [] => some ([], [])

theorem readNumeral_eq (s : List Char) : readNumeral s = do
    let (minus, rest) := readMinus s
    let (whole, rest) ← readWhole rest
    let (fraction, rest) ← readFraction rest
    let (exponent, rest) ← readExponent rest
    return (minus ++ whole ++ fraction ++ exponent, rest) := by
  have exponentOf (k : List Char × List Char → Option (List Char × List Char)) (s : List Char) :
      (match s with
        | e :: rest =>
          if e = 'e' || e = 'E' then
            match takeSign rest with
            | (sign, rest) =>
              ((takeDigits rest).map fun (digits, rest) => (e :: sign ++ digits, rest)).bind k
          else (some ([], s)).bind k
        | [] => (some ([], [])).bind k) = (readExponent s).bind k := by
    unfold readExponent
    split
    · split <;> rfl
    · rfl
  have fractionOf (k : List Char × List Char → Option (List Char × List Char)) (s : List Char) :
      (match s with
        | '.' :: rest => ((takeDigits rest).map fun (digits, rest) => ('.' :: digits, rest)).bind k
        | _ => (some ([], s)).bind k) = (readFraction s).bind k := by
    unfold readFraction
    split <;> rfl
  have wholeOf (k : List Char × List Char → Option (List Char × List Char)) (s : List Char) :
      (match s with
        | '0' :: rest => (some (['0'], rest)).bind k
        | _ => (takeDigits s).bind k) = (readWhole s).bind k := by
    unfold readWhole
    split <;> rfl
  refine (wholeOf _ _).trans (congrArg _ (funext fun (whole, s) => ?_))
  refine (fractionOf _ _).trans (congrArg _ (funext fun (fraction, s) => ?_))
  exact exponentOf _ _

def Whole (s : List Char) : Prop := s = ['0'] ∨ Leading s

def Fraction (s : List Char) : Prop :=
  s = [] ∨ ∃ digits, s = '.' :: digits ∧ AllDigits digits ∧ digits ≠ []

def Exponent (s : List Char) : Prop := s = [] ∨ ∃ n : Int, s = 'e' :: signedDigits n

inductive Numeral : List Char → Prop where
  | intro (negative : Bool) {whole fraction exponent : List Char} : Whole whole →
      Fraction fraction → Exponent exponent →
        Numeral (withSign negative (whole ++ (fraction ++ exponent)))

def Without (stop : Char → Bool) (rest : List Char) : Prop := ∀ c ∈ rest.head?, stop c = false

def goesOn (c : Char) : Bool := isDigit c || c = '.' || c = 'e' || c = 'E'

variable {s rest : List Char}

theorem takeDigits_append (digits : AllDigits s) (ne : s ≠ []) (stops : Without isDigit rest) :
    takeDigits (s ++ rest) = some (s, rest) := by
  obtain ⟨taken, left⟩ := takeWhile_stop digits stops
  simp [takeDigits, taken, left, ne]

theorem readMinus_withSign (negative : Bool) (h : s.head? ≠ some '-') :
    readMinus (withSign negative s) = (withSign negative [], s) := by
  cases negative with
  | true => rfl
  | false =>
    change readMinus s = ([], s)
    unfold readMinus
    split
    · exact absurd rfl h
    · rfl

theorem Whole.read (h : Whole s) (stops : Without isDigit rest) :
    readWhole (s ++ rest) = some (s, rest) := by
  rcases h with rfl | ⟨digits, c, t, rfl, head⟩
  · rfl
  · unfold readWhole
    split
    · rename_i zero
      exact absurd (List.cons.inj zero).1 head
    · exact takeDigits_append digits (by simp) stops

theorem Fraction.read (h : Fraction s) (stops : Without (fun c => isDigit c || c = '.') rest) :
    readFraction (s ++ rest) = some (s, rest) := by
  rcases h with rfl | ⟨digits, rfl, all, ne⟩
  · rw [List.nil_append]
    unfold readFraction
    split
    · exact absurd (stops '.' rfl) (by decide)
    · rfl
  · have noDigit : Without isDigit rest := fun c hc => (Bool.or_eq_false_iff.1 (stops c hc)).1
    simp [readFraction, takeDigits_append all ne noDigit]

theorem Exponent.read (h : Exponent s) (stops : Without goesOn rest) :
    readExponent (s ++ rest) = some (s, rest) := by
  rcases h with rfl | ⟨n, rfl⟩
  · rw [List.nil_append]
    unfold readExponent
    split
    · rename_i e rest
      have apart := stops e rfl
      simp only [goesOn, Bool.or_eq_false_iff, decide_eq_false_iff_not] at apart
      simp [apart.1.2, apart.2]
    · rfl
  · have noDigit : Without isDigit rest := by
      intro c hc
      have apart := stops c hc
      simp only [goesOn, Bool.or_eq_false_iff] at apart
      exact apart.1.1.1
    have taken := takeDigits_append (digitsOfNat_digits n.natAbs) (digitsOfNat_ne_nil _) noDigit
    have sign : takeSign (signedDigits n ++ rest) =
        ([if n < 0 then '-' else '+'], digitsOfNat n.natAbs ++ rest) := by
      rw [signedDigits]
      split <;> rfl
    rw [List.cons_append, readExponent, sign]
    simp [taken, signedDigits]

theorem Whole.no_minus (h : Whole s) (rest : List Char) : (s ++ rest).head? ≠ some '-' := by
  rcases h with rfl | ⟨digits, c, t, rfl, -⟩
  · simp
  · intro minus
    have digit := digits c (by simp)
    cases minus
    exact absurd digit (by decide)

theorem Fraction.without_digit (h : Fraction s) (stops : Without isDigit rest) :
    Without isDigit (s ++ rest) := by
  rcases h with rfl | ⟨digits, rfl, -⟩
  · exact stops
  · rintro c ⟨⟩
    rfl

theorem Exponent.without_point (h : Exponent s) (stops : Without goesOn rest) :
    Without (fun c => isDigit c || c = '.') (s ++ rest) := by
  rcases h with rfl | ⟨n, rfl⟩
  · intro c hc
    have apart := stops c hc
    simp only [goesOn, Bool.or_eq_false_iff] at apart ⊢
    exact apart.1.1
  · rintro c ⟨⟩
    rfl

theorem Numeral.read (h : Numeral s) (stops : Without goesOn rest) :
    readNumeral (s ++ rest) = some (s, rest) := by
  obtain ⟨negative, whole, fraction, exponent⟩ := h
  rename_i w f e
  have point := exponent.without_point stops
  have digit : Without isDigit (f ++ (e ++ rest)) :=
    fraction.without_digit fun c hc => (Bool.or_eq_false_iff.1 (point c hc)).1
  have signed : withSign negative (w ++ (f ++ e)) ++ rest =
      withSign negative (w ++ (f ++ (e ++ rest))) := by
    cases negative <;> simp [withSign]
  rw [readNumeral_eq, signed, readMinus_withSign negative (whole.no_minus _)]
  cases negative <;>
    simp [whole.read digit, fraction.read point, exponent.read stops, withSign]

theorem Numeral.of_parts (negative : Bool) (whole fraction exponent : List Char)
    (text : s = whole ++ (fraction ++ exponent)) (hw : Whole whole) (hf : Fraction fraction)
    (he : Exponent exponent) : Numeral (withSign negative s) := text ▸ .intro negative hw hf he

theorem zero_digits : AllDigits ['0'] := zeros_digits 1

theorem intDigits_numeral (n : Int) : Numeral (intDigits n) := by
  have whole : Whole (digitsOfNat n.natAbs) := by
    by_cases zero : n = 0
    · exact .inl (by rw [zero]; rfl)
    · exact .inr (digitsOfNat_leading (Int.natAbs_ne_zero.2 zero))
  have signed : intDigits n = withSign (decide (n < 0)) (digitsOfNat n.natAbs) := by
    simp [intDigits, withSign]
  rw [signed]
  exact .of_parts _ _ [] [] (by simp) whole (.inl rfl) (.inl rfl)

theorem plainDigits_numeral (negative : Bool) {digits : List Char} (h : Leading digits)
    (point : Int) : Numeral (withSign negative
      (plainDigits digits point ++ if (digits.length : Int) ≤ point then ['.', '0'] else [])) := by
  obtain ⟨all, c, t, rfl, head⟩ := h
  by_cases small : point ≤ 0
  · have long : ¬((c :: t).length : Int) ≤ point := by
      rw [List.length_cons]
      omega
    have text : plainDigits (c :: t) point = '0' :: '.' :: zeros (-point).toNat ++ c :: t :=
      if_pos small
    rw [if_neg long, text]
    exact .of_parts negative ['0'] ('.' :: (zeros (-point).toNat ++ c :: t)) [] (by simp)
      (.inl rfl) (.inr ⟨_, rfl, (zeros_digits _).append all, by simp⟩) (.inl rfl)
  · by_cases short : ((c :: t).length : Int) ≤ point
    · have fits : (c :: t).length ≤ point.toNat := by omega
      have text : plainDigits (c :: t) point =
          c :: t ++ zeros (point.toNat - (c :: t).length) := by
        rw [plainDigits, if_neg small, if_pos fits]
      rw [if_pos short, text]
      exact .of_parts negative _ ['.', '0'] [] (by rw [List.append_nil])
        (.inr ⟨all.append (zeros_digits _), c, _, rfl, head⟩)
        (.inr ⟨_, rfl, zero_digits, by simp⟩) (.inl rfl)
    · have fits : ¬(c :: t).length ≤ point.toNat := by omega
      have text : plainDigits (c :: t) point =
          (c :: t).take point.toNat ++ '.' :: (c :: t).drop point.toNat := by
        rw [plainDigits, if_neg small, if_neg fits]
      obtain ⟨n, some⟩ : ∃ n, point.toNat = n + 1 := ⟨point.toNat - 1, by omega⟩
      rw [if_neg short, text]
      exact .of_parts negative ((c :: t).take point.toNat) ('.' :: (c :: t).drop point.toNat) []
        (by simp)
        (.inr ⟨all.subset (List.take_subset _ _), c, t.take n, by rw [some]; rfl, head⟩)
        (.inr ⟨_, rfl, all.subset (List.drop_subset _ _), mt List.drop_eq_nil_iff.1 fits⟩)
        (.inl rfl)

theorem leadDigit_numeral (negative : Bool) {digits : List Char} (h : Leading digits) (n : Int) :
    Numeral (withSign negative (leadDigit digits ++ 'e' :: signedDigits n)) := by
  obtain ⟨all, c, t, rfl, head⟩ := h
  have first : Whole [c] := .inr ⟨all.subset (by simp), c, [], rfl, head⟩
  have exponent : Exponent ('e' :: signedDigits n) := .inr ⟨n, rfl⟩
  cases t with
  | nil => exact .of_parts negative [c] [] _ rfl first (.inl rfl) exponent
  | cons d t =>
    have rest : AllDigits (d :: t) := all.subset (List.subset_cons_self c _)
    exact .of_parts negative [c] ('.' :: d :: t) _ rfl first (.inr ⟨_, rfl, rest, by simp⟩) exponent

theorem json_numeral (negative : Bool) (m : Magnitude) : Numeral (json negative m) := by
  rw [json]
  split
  · exact .of_parts negative ['0'] ['.', '0'] [] rfl (.inl rfl)
      (.inr ⟨_, rfl, zero_digits, by simp⟩) (.inl rfl)
  · rename_i positive
    have leading := m.shortest_leading positive .toEven
    dsimp only
    split
    · exact plainDigits_numeral negative leading _
    · exact leadDigit_numeral negative leading _

namespace Number

/-- The number is what is read from its text. -/
def ReadsBack (n : Number) : Prop := ofNumeral? n.render = some n

instance (n : Number) : Decidable n.ReadsBack := inferInstanceAs (Decidable (_ = _))

theorem render_numeral (n : Number) : Numeral n.render := by
  cases n with
  | whole n small => exact intDigits_numeral n
  | real x finite =>
    obtain ⟨negative, m, of, -⟩ := parts_finite finite
    simp only [render, of]
    exact json_numeral negative m

theorem parse?_intDigits (n : Int) :
    Decimal.parse? (intDigits n) = some ⟨decide (n < 0), n.natAbs, 0⟩ := by
  have digits := digitsOfNat_digits n.natAbs
  have ne := digitsOfNat_ne_nil n.natAbs
  have sign : takeSign (intDigits n) = (withSign (decide (n < 0)) [], digitsOfNat n.natAbs) := by
    by_cases negative : n < 0
    · simp [intDigits, negative, takeSign, isSign, withSign]
    · obtain ⟨c, t, split⟩ := List.exists_cons_of_ne_nil ne
      have unsigned : isSign c = false := by
        have digit := digits c (by simp [split])
        by_contra sign
        simp only [isSign, Bool.not_eq_false, Bool.or_eq_true, decide_eq_true_eq] at sign
        rcases sign with rfl | rfl <;> revert digit <;> decide
      simp [intDigits, negative, takeSign, withSign, split, unsigned]
  have whole : (digitsOfNat n.natAbs).takeWhile isDigit = digitsOfNat n.natAbs :=
    List.takeWhile_eq_self_iff.2 digits
  have rest : (digitsOfNat n.natAbs).dropWhile isDigit = [] := List.dropWhile_eq_nil_iff.2 digits
  have noPoint : ∀ c ∈ digitsOfNat n.natAbs, decide (c ≠ '.') = true := by
    intro c hc
    simp only [ne_eq, decide_eq_true_eq]
    rintro rfl
    exact absurd (digits _ hc) (by decide)
  have value : mantissaValue (digitsOfNat n.natAbs) = (n.natAbs, 0) := by
    rw [mantissaValue, List.takeWhile_eq_self_iff.2 noPoint, List.dropWhile_eq_nil_iff.2 noPoint]
    simp [natOfDigits_digitsOfNat]
  have mantissa : takeMantissa isDigit (digitsOfNat n.natAbs) =
      some (digitsOfNat n.natAbs, []) := by
    simp [takeMantissa, whole, rest, ne]
  rw [Decimal.parse?, sign]
  simp only [mantissa, takeExponent, value, exponentValue]
  by_cases negative : n < 0 <;> simp [negative, withSign]

theorem readsBack_whole (n : Int) (small : isSmall n = true) : (whole n small).ReadsBack := by
  have value : (if decide (n < 0) = true then -(n.natAbs : Int) else n.natAbs) = n := by
    simp only [decide_eq_true_eq]
    split <;> omega
  have plain : (intDigits n).any (fun c => c = '.' || c = 'e' || c = 'E') = false := by
    have of_digit {c : Char} (h : isDigit c = true) :
        ¬(decide (c = '.') || decide (c = 'e') || decide (c = 'E')) = true := by
      simp only [Bool.or_eq_true, decide_eq_true_eq]
      rintro ((rfl | rfl) | rfl) <;> exact absurd h (by decide)
    rw [List.any_eq_false]
    intro c hc
    rw [intDigits] at hc
    split at hc
    · rcases List.mem_cons.1 hc with rfl | hc
      · decide
      · exact of_digit (digitsOfNat_digits _ c hc)
    · exact of_digit (digitsOfNat_digits _ c hc)
  have nonzero : (decide (n < 0) && decide (n.natAbs = 0)) = false := by
    simp
    omega
  simp only [ReadsBack, render, ofNumeral?, parse?_intDigits, value, plain, nonzero]
  simp [small]

end Number

end DesignTokens.Json
