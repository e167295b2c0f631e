import DesignTokens.Number.Decimal
import Mathlib.Data.List.TakeWhile

namespace DesignTokens.Number

def signs : List (List Char) := [[], ['+'], ['-']]

variable {digit : Char → Bool}

structure Mantissa (digit : Char → Bool) where
  whole : List Char
  fraction : Option (List Char)
  digits : ∀ c ∈ whole ++ fraction.getD [], digit c = true
  some_digit : whole ++ fraction.getD [] ≠ []

structure Exponent (digit : Char → Bool) where
  letter : Char
  sign : List Char
  digits : List Char
  isLetter : letter = 'e' ∨ letter = 'E'
  isSign : sign ∈ signs
  all_digits : ∀ c ∈ digits, digit c = true
  some_digit : digits ≠ []

structure Numeral (digit : Char → Bool) where
  sign : List Char
  mantissa : Mantissa digit
  exponent : Option (Exponent digit)
  isSign : sign ∈ signs

namespace Mantissa

def text (m : Mantissa digit) : List Char :=
  m.whole ++ match m.fraction with
    | none => []
    | some digits => '.' :: digits

def value (m : Mantissa digit) : Nat × Int :=
  (natOfDigits (m.whole ++ m.fraction.getD []), -((m.fraction.getD []).length : Int))

end Mantissa

namespace Exponent

def text (e : Exponent digit) : List Char := e.letter :: e.sign ++ e.digits

def value (e : Exponent digit) : Int :=
  if e.sign = ['-'] then -(natOfDigits e.digits : Int) else natOfDigits e.digits

end Exponent

namespace Numeral

def exponentText (n : Numeral digit) : List Char := (n.exponent.map Exponent.text).getD []

def text (n : Numeral digit) : List Char := n.sign ++ n.mantissa.text ++ n.exponentText

def decimal (n : Numeral digit) : Decimal where
  negative := n.sign = ['-']
  digits := n.mantissa.value.1
  exponent := n.mantissa.value.2 + (n.exponent.map Exponent.value).getD 0

/-- The numeral begins the text, and none in the other digits that begins it is longer. -/
def Leads (n : Numeral digit) (digit' : Char → Bool) (s : List Char) : Prop :=
  n.text <+: s ∧ ∀ m : Numeral digit', m.text <+: s → m.text.length ≤ n.text.length

end Numeral

structure DigitClass (digit : Char → Bool) : Prop where
  point : digit '.' = false
  letter : digit 'e' = false
  capital : digit 'E' = false
  sign : ∀ c, digit c = true → isSign c = false

def Stops (stop : Char → Bool) (s : List Char) : Prop := ∀ c ∈ s.head?, stop c = false

variable {s t rest : List Char}

theorem Stops.takeWhile {p : Char → Bool} (stop : Stops p t) :
    t.takeWhile p = [] ∧ t.dropWhile p = t := by
  cases t with
  | nil => exact ⟨rfl, rfl⟩
  | cons c t => simp [stop c rfl]

theorem takeWhile_stop {p : Char → Bool} (all : ∀ c ∈ s, p c = true) (stop : Stops p t) :
    (s ++ t).takeWhile p = s ∧ (s ++ t).dropWhile p = t := by
  rw [List.takeWhile_append_of_pos all, List.dropWhile_append_of_pos all, stop.takeWhile.1,
    stop.takeWhile.2, List.append_nil]
  exact ⟨rfl, rfl⟩

theorem isSign_eq_false {c : Char} (plus : c ≠ '+') (minus : c ≠ '-') : isSign c = false := by
  simp [isSign, plus, minus]

theorem takeSign_eq (h : takeSign s = (t, rest)) : s = t ++ rest ∧ t ∈ signs := by
  cases s with
  | nil =>
    cases h
    exact ⟨rfl, by decide⟩
  | cons c s =>
    rw [takeSign] at h
    split at h
    · next sign =>
      cases h
      simp only [isSign, Bool.or_eq_true, decide_eq_true_eq] at sign
      rcases sign with rfl | rfl <;> exact ⟨rfl, by decide⟩
    · cases h
      exact ⟨rfl, by decide⟩

theorem takeSign_append (h : t ∈ signs) (stop : Stops isSign rest) :
    takeSign (t ++ rest) = (t, rest) := by
  simp only [signs, List.mem_cons, List.not_mem_nil, or_false] at h
  rcases h with rfl | rfl | rfl
  · cases rest with
    | nil => rfl
    | cons c rest => simp [takeSign, stop c rfl]
  · rfl
  · rfl

theorem DigitClass.stops_sign (h : DigitClass digit) (all : ∀ c ∈ s, digit c = true) (ne : s ≠ [])
    (t : List Char) : Stops isSign (s ++ t) := by
  obtain ⟨c, s, rfl⟩ := List.exists_cons_of_ne_nil ne
  rintro d ⟨⟩
  exact h.sign c (all c (by simp))

namespace Mantissa

def ofWhole (whole : List Char) (all : ∀ c ∈ whole, digit c = true) (ne : whole ≠ []) :
    Mantissa digit where
  whole := whole
  fraction := none
  digits := by simpa using all
  some_digit := by simpa using ne

theorem exists_cons (m : Mantissa digit) :
    ∃ c rest, m.text = c :: rest ∧ (digit c = true ∨ c = '.') := by
  obtain ⟨whole, fraction, all, ne⟩ := m
  cases whole with
  | nil =>
    cases fraction with
    | none => exact absurd rfl ne
    | some digits => exact ⟨'.', digits, rfl, .inr rfl⟩
  | cons c whole => exact ⟨c, _, rfl, .inl (all c (by simp))⟩

theorem stops_sign (h : DigitClass digit) (m : Mantissa digit) (t : List Char) :
    Stops isSign (m.text ++ t) := by
  obtain ⟨c, rest, text, first⟩ := m.exists_cons
  rw [text]
  rintro d ⟨⟩
  rcases first with digit | rfl
  · exact h.sign c digit
  · rfl

theorem take (h : DigitClass digit) (m : Mantissa digit) (t : List Char) :
    (∃ more rest, takeMantissa digit (m.text ++ t) = some (m.text ++ more, rest)) ∧
      (Stops digit t → Stops (· = '.') t →
        takeMantissa digit (m.text ++ t) = some (m.text, t)) := by
  obtain ⟨whole, fraction, all, ne⟩ := m
  have inWhole : ∀ c ∈ whole, digit c = true := fun c hc => all c (List.mem_append_left _ hc)
  cases fraction with
  | none =>
    have ne : whole ≠ [] := by simpa using ne
    have taken : (whole ++ t).takeWhile digit = whole ++ t.takeWhile digit :=
      List.takeWhile_append_of_pos inWhole
    have left : (whole ++ t).dropWhile digit = t.dropWhile digit :=
      List.dropWhile_append_of_pos inWhole
    simp only [text, List.append_nil, takeMantissa, taken, left]
    constructor
    · split
      · simp [ne]
      · simp [ne]
    · intro stop point
      rw [stop.takeWhile.1, stop.takeWhile.2]
      split
      · exact absurd (point '.' rfl) (by simp)
      · simp [ne]
  | some digits =>
    have inFraction : ∀ c ∈ digits, digit c = true :=
      fun c hc => all c (List.mem_append_right _ hc)
    have stop : Stops digit ('.' :: (digits ++ t)) := by
      rintro c ⟨⟩
      exact h.point
    obtain ⟨taken, left⟩ := takeWhile_stop inWhole stop
    have some_digit (more : List Char) : ¬(whole.isEmpty && (digits ++ more).isEmpty) = true := by
      simp only [Bool.and_eq_true, List.isEmpty_iff, List.append_eq_nil_iff]
      rintro ⟨rfl, rfl, -⟩
      exact ne rfl
    simp only [text, List.append_assoc, List.cons_append, takeMantissa, taken, left,
      List.takeWhile_append_of_pos inFraction, List.dropWhile_append_of_pos inFraction]
    rw [if_neg (some_digit _)]
    refine ⟨⟨t.takeWhile digit, t.dropWhile digit, rfl⟩, fun stop _ => ?_⟩
    rw [stop.takeWhile.1, stop.takeWhile.2, List.append_nil]

end Mantissa

theorem takeMantissa_eq (h : takeMantissa digit s = some (t, rest)) :
    s = t ++ rest ∧ ∃ m : Mantissa digit, m.text = t := by
  have whole := List.takeWhile_append_dropWhile (p := digit) (l := s)
  have inWhole : ∀ c ∈ s.takeWhile digit, digit c = true := fun c hc => List.mem_takeWhile_imp hc
  unfold takeMantissa at h
  dsimp only at h
  split at h
  · next tail point =>
    have inFraction : ∀ c ∈ tail.takeWhile digit, digit c = true :=
      fun c hc => List.mem_takeWhile_imp hc
    have behind := List.takeWhile_append_dropWhile (p := digit) (l := tail)
    split at h
    · cases h
    · next some_digit =>
      cases h
      refine ⟨?_, ⟨s.takeWhile digit, some (tail.takeWhile digit),
        List.forall_mem_append.2 ⟨inWhole, inFraction⟩, ?_⟩, rfl⟩
      · rw [List.append_assoc, List.cons_append, behind, ← point, whole]
      rw [Option.getD_some, Ne, List.append_eq_nil_iff]
      simpa using some_digit
  · split at h
    · cases h
    · next some_digit =>
      cases h
      exact ⟨whole.symm, .ofWhole _ inWhole (by simpa using some_digit), List.append_nil _⟩

theorem Exponent.stops (h : DigitClass digit) (e : Exponent digit) (t : List Char) :
    Stops digit (e.text ++ t) ∧ Stops (· = '.') (e.text ++ t) := by
  have letter : digit e.letter = false ∧ e.letter ≠ '.' := by
    rcases e.isLetter with same | same <;> rw [same]
    · exact ⟨h.letter, by decide⟩
    · exact ⟨h.capital, by decide⟩
  constructor <;> rintro c ⟨⟩
  · exact letter.1
  · simpa using letter.2

theorem Exponent.take (h : DigitClass digit) (e : Exponent digit) (t : List Char) :
    takeExponent digit (e.text ++ t) = (e.text ++ t.takeWhile digit, t.dropWhile digit) := by
  have sign : takeSign (e.sign ++ (e.digits ++ t)) = (e.sign, e.digits ++ t) :=
    takeSign_append e.isSign (h.stops_sign e.all_digits e.some_digit t)
  have letter : (decide (e.letter = 'e') || decide (e.letter = 'E')) = true := by
    simpa using e.isLetter
  simp only [Exponent.text, List.cons_append, List.append_assoc, takeExponent, sign,
    List.takeWhile_append_of_pos e.all_digits, List.dropWhile_append_of_pos e.all_digits, letter]
  simp [e.some_digit]

theorem takeExponent_eq (h : takeExponent digit s = (t, rest)) :
    s = t ++ rest ∧ ∃ e : Option (Exponent digit), (e.map Exponent.text).getD [] = t := by
  cases s with
  | nil =>
    cases h
    exact ⟨rfl, none, rfl⟩
  | cons letter s =>
    cases taken : takeSign s with
    | mk sign tail =>
      obtain ⟨split, isSign⟩ := takeSign_eq taken
      simp only [takeExponent, taken] at h
      split at h
      · next whole =>
        cases h
        simp only [Bool.and_eq_true, Bool.or_eq_true, decide_eq_true_eq, Bool.not_eq_true',
          List.isEmpty_eq_false_iff] at whole
        refine ⟨?_, some ⟨letter, sign, tail.takeWhile digit, whole.1, isSign,
          fun c hc => List.mem_takeWhile_imp hc, whole.2⟩, rfl⟩
        rw [split, List.append_assoc, List.takeWhile_append_dropWhile]
        rfl
      · cases h
        exact ⟨rfl, none, rfl⟩

namespace Numeral

theorem takeSign (h : DigitClass digit) (n : Numeral digit) (t : List Char) :
    Number.takeSign (n.text ++ t) = (n.sign, n.mantissa.text ++ (n.exponentText ++ t)) := by
  have parts : n.text ++ t = n.sign ++ (n.mantissa.text ++ (n.exponentText ++ t)) := by
    simp [text]
  rw [parts]
  exact takeSign_append n.isSign (n.mantissa.stops_sign h _)

theorem exponentText_stops (h : DigitClass digit) (n : Numeral digit) :
    Stops digit n.exponentText ∧ Stops (· = '.') n.exponentText := by
  rw [exponentText]
  cases n.exponent with
  | none => exact ⟨nofun, nofun⟩
  | some e => simpa using e.stops h []

theorem take (h : DigitClass digit) (n : Numeral digit) (t : List Char) :
    ∃ more rest, takeNumeral digit (n.text ++ t) = some (n.text ++ more, rest) := by
  rw [takeNumeral, n.takeSign h]
  cases given : n.exponent with
  | none =>
    -- More digits can follow, a point, or an exponent.
    have no : n.exponentText = [] := by rw [exponentText, given]; rfl
    obtain ⟨⟨more, rest, taken⟩, -⟩ := n.mantissa.take h t
    refine ⟨more ++ (takeExponent digit rest).1, (takeExponent digit rest).2, ?_⟩
    simp [no, taken, text]
  | some e =>
    have same : n.exponentText = e.text := by rw [exponentText, given]; rfl
    obtain ⟨stop, point⟩ := e.stops h t
    have taken := (n.mantissa.take h (e.text ++ t)).2 stop point
    refine ⟨t.takeWhile digit, t.dropWhile digit, ?_⟩
    simp [same, taken, e.take h, text]

end Numeral

theorem takeNumeral_eq (h : takeNumeral digit s = some (t, rest)) :
    s = t ++ rest ∧ ∃ n : Numeral digit, n.text = t := by
  cases signed : takeSign s with
  | mk sign tail =>
  rw [takeNumeral, signed] at h
  obtain ⟨⟨mantissa, tail'⟩, taken, pair⟩ := Option.map_eq_some_iff.1 h
  cases ended : takeExponent digit tail' with
  | mk exponent tail'' =>
  dsimp only at pair
  rw [ended] at pair
  cases pair
  obtain ⟨rfl, isSign⟩ := takeSign_eq signed
  obtain ⟨rfl, m, rfl⟩ := takeMantissa_eq taken
  obtain ⟨rfl, e, rfl⟩ := takeExponent_eq ended
  exact ⟨by simp, ⟨sign, m, e, isSign⟩, rfl⟩

/-- What is taken from a text is the longest numeral that begins it. -/
theorem takeNumeral_eq_some_iff (h : DigitClass digit) : takeNumeral digit s = some (t, rest) ↔
    s = t ++ rest ∧ ∃ n : Numeral digit, n.text = t ∧ n.Leads digit s := by
  have longest {n : Numeral digit} {t rest : List Char} (begins : n.text <+: s)
      (taken : takeNumeral digit s = some (t, rest)) : n.text <+: t := by
    obtain ⟨u, rfl⟩ := begins
    obtain ⟨more, rest', again⟩ := n.take h u
    rw [again] at taken
    cases taken
    exact List.prefix_append _ _
  constructor
  · intro taken
    obtain ⟨whole, n, rfl⟩ := takeNumeral_eq taken
    refine ⟨whole, n, rfl, whole ▸ List.prefix_append _ _, fun m begins => ?_⟩
    exact (longest begins taken).length_le
  · rintro ⟨whole, n, rfl, begins, most⟩
    -- Whatever more were taken would be a longer numeral at the front of the text.
    obtain ⟨more, rest', taken⟩ := n.take h rest
    rw [← whole] at taken
    obtain ⟨whole', m, text⟩ := takeNumeral_eq taken
    have short := most m (text ▸ whole' ▸ List.prefix_append _ _)
    have none : more = [] := by
      rw [text, List.length_append] at short
      exact List.length_eq_zero_iff.1 (by omega)
    rw [taken, none]
    rw [none, whole, List.append_nil] at whole'
    rw [List.append_nil, List.append_cancel_left whole']

theorem takeNumeral_eq_none_iff (h : DigitClass digit) :
    takeNumeral digit s = none ↔ ∀ n : Numeral digit, ¬n.text <+: s := by
  constructor
  · rintro nothing n ⟨t, rfl⟩
    obtain ⟨more, rest, taken⟩ := n.take h t
    rw [nothing] at taken
    cases taken
  · intro nothing
    cases taken : takeNumeral digit s with
    | none => rfl
    | some pair =>
      obtain ⟨whole, n, text⟩ := takeNumeral_eq taken
      exact absurd (by rw [whole, text]; exact List.prefix_append _ _) (nothing n)

variable {digit' : Char → Bool}

theorem Mantissa.digits_subset (m : Mantissa digit) : m.whole ++ m.fraction.getD [] ⊆ m.text := by
  intro c hc
  rw [Mantissa.text]
  rcases List.mem_append.1 hc with hc | hc
  · exact List.mem_append_left _ hc
  · cases given : m.fraction with
    | none => simp [given] at hc
    | some digits =>
      rw [given] at hc
      exact List.mem_append_right _ (List.mem_cons_of_mem _ hc)

theorem Numeral.exists_recast (n : Numeral digit)
    (h : ∀ c ∈ n.text, digit c = true → digit' c = true) :
    ∃ m : Numeral digit', m.text = n.text := by
  obtain ⟨sign, mantissa, exponent, isSign⟩ := n
  have front : ∀ c ∈ mantissa.whole ++ mantissa.fraction.getD [], digit' c = true := by
    intro c hc
    refine h c ?_ (mantissa.digits c hc)
    exact List.mem_append_left _ (List.mem_append_right _ (mantissa.digits_subset hc))
  cases exponent with
  | none =>
    exact ⟨⟨sign, ⟨_, mantissa.fraction, front, mantissa.some_digit⟩, none, isSign⟩, rfl⟩
  | some e =>
    have back : ∀ c ∈ e.digits, digit' c = true := by
      intro c hc
      refine h c ?_ (e.all_digits c hc)
      exact List.mem_append_right _ (List.mem_append_right _ hc)
    exact ⟨⟨sign, ⟨_, mantissa.fraction, front, mantissa.some_digit⟩,
      some ⟨e.letter, e.sign, e.digits, e.isLetter, e.isSign, back, e.some_digit⟩, isSign⟩, rfl⟩

theorem isDigit_range {c : Char} (h : isDigit c = true) : 48 ≤ c.toNat ∧ c.toNat ≤ 57 := by
  simp only [isDigit, Bool.and_eq_true, decide_eq_true_eq, UInt32.le_iff_toNat_le] at h
  exact h

theorem isDigit_class : DigitClass isDigit := by
  refine ⟨rfl, rfl, rfl, fun c digit => isSign_eq_false ?_ ?_⟩
  all_goals
    rintro rfl
    exact absurd digit (by decide)

theorem Mantissa.mantissaValue_text (m : Mantissa isDigit) : mantissaValue m.text = m.value := by
  obtain ⟨whole, fraction, all, ne⟩ := m
  have noPoint : ∀ c ∈ whole, decide (c ≠ '.') = true := by
    intro c hc
    simp only [ne_eq, decide_eq_true_eq]
    rintro rfl
    exact absurd (all '.' (List.mem_append_left _ hc)) (by decide)
  cases fraction with
  | none =>
    obtain ⟨before, behind⟩ := takeWhile_stop (t := []) noPoint nofun
    rw [mantissaValue, text, before, behind]
    simp [value]
  | some digits =>
    obtain ⟨before, behind⟩ := takeWhile_stop (t := '.' :: digits) noPoint (by rintro c ⟨⟩; rfl)
    rw [mantissaValue, text, before, behind]
    rfl

theorem exponentValue_text (e : Option (Exponent isDigit)) :
    exponentValue ((e.map Exponent.text).getD []) = (e.map Exponent.value).getD 0 := by
  cases e with
  | none => rfl
  | some e =>
    obtain ⟨letter, sign, digits, -, signed, all, ne⟩ := e
    obtain ⟨d, digits, rfl⟩ := List.exists_cons_of_ne_nil ne
    have unsigned := isDigit_class.sign d (all d (by simp))
    simp only [isSign, Bool.or_eq_false_iff, decide_eq_false_iff_not] at unsigned
    simp only [signs, List.mem_cons, List.not_mem_nil, or_false] at signed
    rcases signed with rfl | rfl | rfl
    · simp only [Option.map_some, Option.getD_some, Exponent.text, Exponent.value,
        List.nil_append, List.cons_append]
      unfold exponentValue
      split <;> simp_all
    · rfl
    · rfl

/-- The number that the whole of a text spells is that of a numeral in ASCII digits. -/
theorem Decimal.parse?_eq_some_iff {d : Decimal} :
    Decimal.parse? s = some d ↔ ∃ n : Numeral isDigit, n.text = s ∧ n.decimal = d := by
  constructor
  · intro parsed
    cases signed : takeSign s with
    | mk sign tail =>
    obtain ⟨whole, isSign⟩ := takeSign_eq signed
    rw [Decimal.parse?, signed] at parsed
    dsimp only at parsed
    split at parsed
    · cases parsed
    · next mantissa tail' taken =>
      obtain ⟨rfl, m, rfl⟩ := takeMantissa_eq taken
      cases ended : takeExponent isDigit tail' with
      | mk exponent rest =>
      obtain ⟨rfl, e, rfl⟩ := takeExponent_eq ended
      rw [ended] at parsed
      dsimp only at parsed
      split at parsed
      · next done =>
        cases parsed
        refine ⟨⟨sign, m, e, isSign⟩, ?_, ?_⟩
        · rw [whole, List.isEmpty_iff.1 done, List.append_nil, ← List.append_assoc]
          rfl
        · rw [m.mantissaValue_text, exponentValue_text]
          rfl
      · cases parsed
  · rintro ⟨n, rfl, rfl⟩
    have signed := n.takeSign isDigit_class []
    obtain ⟨stop, point⟩ := n.exponentText_stops isDigit_class
    have taken := (n.mantissa.take isDigit_class n.exponentText).2 stop point
    have ended : takeExponent isDigit n.exponentText = (n.exponentText, []) := by
      rw [Numeral.exponentText]
      cases n.exponent with
      | none => rfl
      | some e => simpa using e.take isDigit_class []
    rw [List.append_nil, List.append_nil] at signed
    rw [Decimal.parse?, signed]
    simp only [taken, ended, n.mantissa.mantissaValue_text]
    rw [Numeral.exponentText, exponentValue_text]
    rfl

end DesignTokens.Number
