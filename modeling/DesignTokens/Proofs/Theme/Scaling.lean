import DesignTokens.Proofs.Number.Numeral
import DesignTokens.Proofs.Text.Plain
import DesignTokens.Proofs.Theme.Name
import DesignTokens.Theme.Mapping

namespace DesignTokens

open Number (Numeral isDigit)
open Text (isDecimalDigit trimStart Plain)

variable {s : List Char} {x : Float}

theorem isDecimalDigit_of_isDigit {c : Char} (h : isDigit c = true) : isDecimalDigit c = true := by
  have low : c.val < 0x80 :=
    UInt32.lt_iff_toNat_lt.2 (Nat.lt_of_le_of_lt (Number.isDigit_range h).2 (by decide))
  rw [isDecimalDigit, if_pos low]
  exact h

theorem isDecimalDigit_class : Number.DigitClass isDecimalDigit := by
  refine ⟨by decide, by decide, by decide, fun c digit => Number.isSign_eq_false ?_ ?_⟩
  all_goals
    rintro rfl
    exact absurd digit (by decide)

/-- The number of a text is that of the numeral it begins with, white space aside, if the longest one
    in the digits of all scripts has ASCII digits alone. -/
theorem leadingNumber?_eq_some_iff : leadingNumber? s = some x ↔
    ∃ n : Numeral isDigit, n.Leads isDecimalDigit (trimStart s) ∧ n.decimal.toFloat = x := by
  constructor
  · intro found
    obtain ⟨⟨t, rest⟩, taken, found⟩ := Option.bind_eq_some_iff.1 found
    obtain ⟨d, parsed, value⟩ := Option.bind_eq_some_iff.1 found
    cases value
    obtain ⟨whole, m, same, leads⟩ :=
      (Number.takeNumeral_eq_some_iff isDecimalDigit_class).1 taken
    obtain ⟨n, text, rfl⟩ := Number.Decimal.parse?_eq_some_iff.1 parsed
    refine ⟨n, ?_, rfl⟩
    rwa [Numeral.Leads, text, ← same]
  · rintro ⟨n, leads, rfl⟩
    obtain ⟨m, same⟩ := n.exists_recast fun c _ => isDecimalDigit_of_isDigit (c := c)
    obtain ⟨rest, whole⟩ := leads.1
    have taken : Number.takeNumeral isDecimalDigit (trimStart s) = some (n.text, rest) :=
      (Number.takeNumeral_eq_some_iff isDecimalDigit_class).2
        ⟨whole.symm, m, same, by rwa [Numeral.Leads, same]⟩
    have parsed : Number.Decimal.parse? n.text = some n.decimal :=
      Number.Decimal.parse?_eq_some_iff.2 ⟨n, rfl, rfl⟩
    simp [leadingNumber?, taken, parsed]

theorem leadingNumber?_eq_none_iff : leadingNumber? s = none ↔
    ∀ n : Numeral isDigit, ¬n.Leads isDecimalDigit (trimStart s) := by
  rw [Option.eq_none_iff_forall_ne_some]
  constructor
  · intro nothing n leads
    exact nothing _ (leadingNumber?_eq_some_iff.2 ⟨n, leads, rfl⟩)
  · rintro nothing x found
    obtain ⟨n, leads, -⟩ := leadingNumber?_eq_some_iff.1 found
    exact nothing n leads

namespace Number

theorem Numeral.exists_leads {digit : Char → Bool} (h : DigitClass digit) :
    (∃ n : Numeral digit, n.Leads digit s) ↔ ∃ n : Numeral digit, n.text <+: s := by
  refine ⟨fun ⟨n, leads⟩ => ⟨n, leads.1⟩, fun ⟨n, begins⟩ => ?_⟩
  cases taken : takeNumeral digit s with
  | none => exact absurd begins ((takeNumeral_eq_none_iff h).1 taken n)
  | some pair =>
    obtain ⟨-, m, -, leads⟩ := (takeNumeral_eq_some_iff h).1 taken
    exact ⟨m, leads⟩

theorem Numeral.leads_iff (ascii : ∀ c ∈ s, isDecimalDigit c = true → isDigit c = true)
    (n : Numeral isDigit) : n.Leads isDecimalDigit s ↔ n.Leads isDigit s := by
  refine and_congr_right fun _ => ⟨fun most m begins => ?_, fun most m begins => ?_⟩
  · obtain ⟨m', same⟩ := m.exists_recast fun c _ => isDecimalDigit_of_isDigit (c := c)
    rw [← same] at begins ⊢
    exact most m' begins
  · obtain ⟨m', same⟩ := m.exists_recast fun c hc => ascii c (begins.subset hc)
    rw [← same] at begins ⊢
    exact most m' begins

end Number

namespace Modifier

theorem normalValue_scaled (y : Float) (unit : LengthUnit) :
    Declaration.normalValue (Number.plain y ++ unit.suffix.toList) =
      Number.plain y ++ unit.suffix.toList := by
  have suffix : (unit.suffix.toList.all fun c => !Text.isBlank c && c ≠ ';') = true := by
    cases unit <;> decide
  have inert : ∀ c ∈ Number.plain y ++ unit.suffix.toList, Text.isBlank c = false ∧ c ≠ ';' := by
    refine List.forall_mem_append.2 ⟨fun c hc => ?_, by simpa using suffix⟩
    obtain ⟨ink, other⟩ := Text.isPlain_inert (Number.plain_plain y c hc)
    exact ⟨ink, fun same => other (by simp [same])⟩
  have ne : Number.plain y ++ unit.suffix.toList ≠ [] := by simp [Number.plain_ne_nil]
  apply Declaration.normalValue_eq_self
  · exact .inr ⟨⟨_, List.head?_eq_some_head ne, (inert _ (List.head_mem ne)).1⟩,
      ⟨_, List.getLast?_eq_some_getLast ne, (inert _ (List.getLast_mem ne)).1⟩⟩
  · intro semicolon
    exact (inert _ (List.mem_of_getLast? semicolon)).2 rfl

/-- If the longest numeral at the front of a text, in the digits of all scripts, is in ASCII digits,
    its value is found and scaled; otherwise nothing is found, even behind ASCII digits, and the
    text stays as it is. Where no other digits occur, the longest numeral in ASCII digits is
    found. -/
theorem apply_leading (m : Modifier) (name : String) (s : List Char) :
    (∀ x, leadingNumber? s = some x ↔
      ∃ n : Numeral isDigit, n.Leads isDecimalDigit (trimStart s) ∧ n.decimal.toFloat = x) ∧
    (∀ n : Numeral isDigit, n.Leads isDecimalDigit (trimStart s) →
      m.apply ⟨name, .ofList s⟩ =
        ⟨name, .ofList (Number.plain (n.decimal.toFloat * m.factor) ++ m.unit.suffix.toList)⟩) ∧
    ((∀ n : Numeral isDigit, ¬n.Leads isDecimalDigit (trimStart s)) →
      m.apply ⟨name, .ofList s⟩ = ⟨name, .ofList s⟩) ∧
    ((∀ c ∈ s, isDecimalDigit c = true → isDigit c = true) →
      (leadingNumber? s = none ↔ ∀ n : Numeral isDigit, ¬n.text <+: trimStart s) ∧
      ∀ n : Numeral isDigit, n.Leads isDigit (trimStart s) →
        leadingNumber? s = some n.decimal.toFloat) := by
  refine ⟨fun x => leadingNumber?_eq_some_iff, fun n leads => ?_, fun nothing => ?_, fun ascii => ?_⟩
  · have found := leadingNumber?_eq_some_iff.2 ⟨n, leads, rfl⟩
    rw [apply, String.toList_ofList, found]
    simp only [Declaration.setValue, normalValue_scaled]
  · rw [apply, String.toList_ofList, leadingNumber?_eq_none_iff.2 nothing]
  · have trimmed : ∀ c ∈ trimStart s, isDecimalDigit c = true → isDigit c = true :=
      fun c hc => ascii c ((Text.trimStart_suffix s).subset hc)
    constructor
    · rw [leadingNumber?_eq_none_iff, ← not_exists, ← not_exists,
        ← Numeral.exists_leads Number.isDigit_class]
      simp only [Numeral.leads_iff trimmed]
    · intro n leads
      exact leadingNumber?_eq_some_iff.2 ⟨n, (n.leads_iff trimmed).2 leads, rfl⟩

def minusThreeHundredFifty : Numeral isDigit where
  sign := ['-']
  mantissa := ⟨['3'], some ['5'], List.all_eq_true.1 rfl, by decide⟩
  exponent := some ⟨'e', ['+'], ['2'], by decide, by decide, List.all_eq_true.1 rfl, by decide⟩
  isSign := by decide

theorem apply_halved :
    let s := "  -3.5e+2e٣".toList
    minusThreeHundredFifty.Leads isDecimalDigit (trimStart s) ∧
      (⟨.px, 0.5⟩ : Modifier).apply ⟨"--w", .ofList s⟩ = ⟨"--w", "-175px"⟩ := by
  intro s
  have leads : minusThreeHundredFifty.Leads isDecimalDigit (trimStart s) := by
    have taken : Number.takeNumeral isDecimalDigit (trimStart s) =
        some (minusThreeHundredFifty.text, "e٣".toList) := by decide +kernel
    obtain ⟨-, m, same, leads⟩ := (Number.takeNumeral_eq_some_iff isDecimalDigit_class).1 taken
    rwa [Numeral.Leads, same] at leads
  refine ⟨leads, ((apply_leading ⟨.px, 0.5⟩ "--w" s).2.1 _ leads).trans ?_⟩
  decide +kernel

/-- Digits of another script behind a number take it away. -/
theorem sixteen_unscaled : ∃ n : Numeral isDigit, n.text = "16".toList ∧
    n.Leads isDigit (trimStart "16٤px".toList) ∧ leadingNumber? "16٤px".toList = none ∧
    ∀ m : Modifier, m.apply ⟨"--w", "16٤px"⟩ = ⟨"--w", "16٤px"⟩ := by
  have taken : Number.takeNumeral isDigit (trimStart "16٤px".toList) =
      some ("16".toList, "٤px".toList) := by decide +kernel
  obtain ⟨-, n, same, leads⟩ := (Number.takeNumeral_eq_some_iff Number.isDigit_class).1 taken
  have nothing : leadingNumber? "16٤px".toList = none := by decide +kernel
  refine ⟨n, same, leads, nothing, fun m => ?_⟩
  rw [apply, nothing]

end Modifier

end DesignTokens
