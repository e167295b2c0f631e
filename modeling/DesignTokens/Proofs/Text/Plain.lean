import DesignTokens.Naming
import DesignTokens.Number.Notation
import DesignTokens.Proofs.Text.Ink

namespace DesignTokens.Text

def isPlain (c : Char) : Bool := c.isAlphanum || c ∈ ['-', '+', '.', '(', ')', '/']

def Plain (s : List Char) : Prop := ∀ c ∈ s, isPlain c = true

instance (s : List Char) : Decidable (Plain s) :=
  decidable_of_iff (s.all isPlain = true) List.all_eq_true

variable {c : Char} {s t : List Char}

theorem isAlphanum_range (h : c.isAlphanum = true) : 48 ≤ c.toNat ∧ c.toNat ≤ 57 ∨
    65 ≤ c.toNat ∧ c.toNat ≤ 90 ∨ 97 ≤ c.toNat ∧ c.toNat ≤ 122 := by
  change ((decide (65 ≤ c.val ∧ c.val ≤ 90) || (decide (97 ≤ c.val) && decide (c.val ≤ 122))) ||
    (decide (48 ≤ c.val) && decide (c.val ≤ 57))) = true at h
  simp only [Bool.or_eq_true, Bool.and_eq_true, decide_eq_true_eq, UInt32.le_iff_toNat_le] at h
  change ((65 ≤ c.toNat ∧ c.toNat ≤ 90) ∨ (97 ≤ c.toNat ∧ c.toNat ≤ 122)) ∨
    (48 ≤ c.toNat ∧ c.toNat ≤ 57) at h
  omega

theorem forall_isAlphanum {p : Char → Prop}
    (cases : ∀ n < 123, (Char.ofNat n).isAlphanum = true → p (Char.ofNat n)) :
    ∀ c : Char, c.isAlphanum = true → p c := by
  intro c h
  have range := isAlphanum_range h
  have fits := cases c.toNat (by omega)
  rw [Char.ofNat_toNat] at fits
  exact fits h

theorem lowerAscii_eq_self (h : c.toNat < 65 ∨ 90 < c.toNat) : lowerAscii c = c := by
  rw [lowerAscii, if_neg]
  simp only [Bool.and_eq_true, decide_eq_true_eq, UInt32.le_iff_toNat_le]
  change ¬(65 ≤ c.toNat ∧ c.toNat ≤ 90)
  omega

theorem isPlain_of_isAlphanum (h : c.isAlphanum = true) : isPlain c = true := by
  simp [isPlain, h]

theorem isPlain_inert (h : isPlain c = true) : isBlank c = false ∧
    c ∉ ['\'', '"', '*', ':', ';', '\x7b', '\x7d'] := by
  simp only [isPlain, Bool.or_eq_true, decide_eq_true_eq] at h
  rcases h with h | h
  · have range := isAlphanum_range h
    constructor
    · simp only [isBlank, inRanges, blankRanges, List.any_cons, List.any_nil, Bool.or_false,
        Bool.or_eq_false_iff, Bool.and_eq_false_iff, decide_eq_false_iff_not]
      omega
    · intro member
      simp only [List.mem_cons, List.not_mem_nil, or_false] at member
      rcases member with rfl | rfl | rfl | rfl | rfl | rfl | rfl <;> simp at range
  · simp only [List.mem_cons, List.not_mem_nil, or_false] at h
    rcases h with rfl | rfl | rfl | rfl | rfl | rfl <;> decide

theorem isBlank_of_isPlain (h : isPlain c = true) : isBlank c = false := (isPlain_inert h).1

namespace Plain

theorem append (hs : Plain s) (ht : Plain t) : Plain (s ++ t) := List.forall_mem_append.2 ⟨hs, ht⟩

theorem cons (hc : isPlain c = true) (hs : Plain s) : Plain (c :: s) :=
  List.forall_mem_cons.2 ⟨hc, hs⟩

theorem subset (ht : Plain t) (h : s ⊆ t) : Plain s := fun c hc => ht c (h hc)

theorem startsInked (h : Plain s) (ne : s ≠ []) : StartsInked s := by
  obtain ⟨c, rest, rfl⟩ := List.exists_cons_of_ne_nil ne
  exact startsInked_cons (isBlank_of_isPlain (h c (by simp)))

theorem endsInked (h : Plain s) (ne : s ≠ []) : EndsInked s :=
  ⟨s.getLast ne, List.getLast?_eq_some_getLast ne, isBlank_of_isPlain (h _ (List.getLast_mem ne))⟩

theorem not_mem_colon (h : Plain s) : ':' ∉ s := by
  intro colon
  exact absurd (h ':' colon) (by decide)

end Plain

end DesignTokens.Text

namespace DesignTokens.Number

open Text (Plain)

variable {digits : List Char}

theorem digitsOfNat_plain (n : Nat) : Plain (digitsOfNat n) := by
  intro c hc
  have digit := Nat.isDigit_of_mem_toDigits (by omega) (by omega) hc
  exact Text.isPlain_of_isAlphanum (by simp [Char.isAlphanum, digit])

theorem shortest_plain (m : Magnitude) (tie : Tie) : Plain (m.shortest tie).1 := by
  apply (digitsOfNat_plain _).subset
  intro c hc
  have kept := (List.dropWhile_sublist _).subset (List.mem_reverse.1 hc)
  exact List.mem_reverse.1 kept

theorem zeros_plain (n : Nat) : Plain (zeros n) := by
  intro c hc
  rw [List.eq_of_mem_replicate hc]
  decide

theorem plainDigits_plain (h : Plain digits) (point : Int) : Plain (plainDigits digits point) := by
  unfold plainDigits
  split
  · exact .cons (by decide) (.cons (by decide) ((zeros_plain _).append h))
  · split
    · exact h.append (zeros_plain _)
    · exact (h.subset (List.take_subset _ _)).append
        (.cons (by decide) (h.subset (List.drop_subset _ _)))

theorem plainDigits_ne_nil (digits : List Char) (point : Int) : plainDigits digits point ≠ [] := by
  unfold plainDigits
  split
  · simp
  · split
    · intro empty
      have size := congrArg List.length empty
      rw [List.length_append, zeros, List.length_replicate, List.length_nil] at size
      omega
    · simp

theorem leadDigit_plain (h : Plain digits) : Plain (leadDigit digits) := by
  match digits, h with
  | [], h => exact h
  | [_], h => exact h
  | c :: d :: rest, h =>
    have hc := h c (by simp)
    have hr : Plain (d :: rest) := h.subset (List.subset_cons_self c _)
    exact .cons hc (.cons (by decide) hr)

theorem signedDigits_plain (n : Int) : Plain (signedDigits n) := by
  unfold signedDigits
  split
  · exact .cons (by decide) (digitsOfNat_plain _)
  · exact .cons (by decide) (digitsOfNat_plain _)

theorem withSign_plain (negative : Bool) (h : Plain digits) : Plain (withSign negative digits) := by
  cases negative
  · exact h
  · exact .cons (by decide) h

theorem plain_plain (x : Float) : Plain (plain x) := by
  unfold plain
  cases parts x with
  | nan => decide
  | infinite negative => exact withSign_plain _ (by decide)
  | finite negative m =>
    have digits := shortest_plain m .up
    dsimp only
    split
    · exact withSign_plain _ (by decide)
    · exact withSign_plain _ (plainDigits_plain digits _)

theorem withSign_ne_nil (negative : Bool) (h : digits ≠ []) : withSign negative digits ≠ [] := by
  cases negative
  · exact h
  · simp [withSign]

theorem plain_ne_nil (x : Float) : plain x ≠ [] := by
  unfold plain
  split
  · simp
  · exact withSign_ne_nil _ (by simp)
  · split
    · exact withSign_ne_nil _ (by simp)
    · exact withSign_ne_nil _ (plainDigits_ne_nil _ _)

theorem literal_plain (x : Float) : Plain (literal x) := by
  unfold literal
  cases parts x with
  | nan => decide
  | infinite negative => exact withSign_plain _ (by decide)
  | finite negative m =>
    obtain ⟨digits, point, shortest⟩ : ∃ digits point, m.shortest .up = (digits, point) := ⟨_, _, rfl⟩
    have plain : Plain digits := by simpa [shortest] using shortest_plain m .up
    simp only [shortest]
    split
    · decide
    · apply withSign_plain
      split
      · exact plainDigits_plain plain point
      · exact (leadDigit_plain plain).append (.cons (by decide) (signedDigits_plain _))

theorem literal_ne_nil (x : Float) : literal x ≠ [] := by
  unfold literal
  cases parts x with
  | nan => simp
  | infinite negative => exact withSign_ne_nil _ (by simp)
  | finite negative m =>
    obtain ⟨digits, point, shortest⟩ : ∃ digits point, m.shortest .up = (digits, point) := ⟨_, _, rfl⟩
    simp only [shortest]
    split
    · simp
    · apply withSign_ne_nil
      split
      · exact plainDigits_ne_nil digits point
      · simp

end DesignTokens.Number
