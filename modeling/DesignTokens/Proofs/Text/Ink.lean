import Mathlib.Data.List.DropRight
import DesignTokens.Text.Blank

namespace DesignTokens.Text

def StartsInked (s : List Char) : Prop := ∃ c ∈ s.head?, isBlank c = false

def EndsInked (s : List Char) : Prop := ∃ c ∈ s.getLast?, isBlank c = false

instance (s : List Char) : Decidable (StartsInked s) :=
  decidable_of_iff (s.head?.any (!isBlank ·) = true) (by simp [StartsInked, Option.any_eq_true])

instance (s : List Char) : Decidable (EndsInked s) :=
  decidable_of_iff (s.getLast?.any (!isBlank ·) = true) (by simp [EndsInked, Option.any_eq_true])

variable {s t : List Char} {c : Char}

theorem startsInked_cons (h : isBlank c = false) : StartsInked (c :: s) := ⟨c, rfl, h⟩

theorem StartsInked.append (h : StartsInked s) (t : List Char) : StartsInked (s ++ t) := by
  obtain ⟨c, hc, ink⟩ := h
  refine ⟨c, ?_, ink⟩
  rw [List.head?_append, Option.mem_def.1 hc]
  rfl

theorem StartsInked.ne_nil (h : StartsInked s) : s ≠ [] := by
  rintro rfl
  obtain ⟨c, hc, -⟩ := h
  cases hc

theorem EndsInked.append (s : List Char) (h : EndsInked t) : EndsInked (s ++ t) := by
  obtain ⟨c, hc, ink⟩ := h
  refine ⟨c, ?_, ink⟩
  rw [List.getLast?_append, Option.mem_def.1 hc]
  rfl

theorem endsInked_concat (s : List Char) (h : isBlank c = false) : EndsInked (s ++ [c]) :=
  ⟨c, by simp, h⟩

theorem trimStart_eq_self (h : StartsInked s) : trimStart s = s := by
  obtain ⟨c, hc, ink⟩ := h
  obtain ⟨rest, rfl⟩ : ∃ rest, s = c :: rest := List.head?_eq_some_iff.1 hc
  simp [trimStart, ink]

theorem trimEnd_eq_self (h : EndsInked s) : trimEnd s = s := by
  obtain ⟨c, hc, ink⟩ := h
  obtain ⟨rest, rfl⟩ : ∃ rest, s = rest ++ [c] := List.getLast?_eq_some_iff.1 hc
  simp [trimEnd, ink]

theorem trim_eq_self (starts : StartsInked s) (ends : EndsInked s) : trim s = s := by
  rw [trim, trimStart_eq_self starts, trimEnd_eq_self ends]

theorem trimEnd_concat_blank (s : List Char) (h : isBlank c = true) :
    trimEnd (s ++ [c]) = trimEnd s := by
  simp [trimEnd, h]

theorem trim_concat_blank (starts : StartsInked s) (ends : EndsInked s) (h : isBlank c = true) :
    trim (s ++ [c]) = s := by
  rw [trim, trimStart_eq_self (starts.append _), trimEnd_concat_blank _ h, trimEnd_eq_self ends]

theorem trimEnd_append_cons (s : List Char) (h : isBlank c = false) (t : List Char) :
    trimEnd (s ++ c :: t) = s ++ c :: trimEnd t := by
  have turned : (s ++ c :: t).reverse = t.reverse ++ (c :: s.reverse) := by simp
  rw [trimEnd, turned, List.dropWhile_append]
  by_cases blank : (t.reverse.dropWhile isBlank).isEmpty
  · have none : t.reverse.dropWhile isBlank = [] := List.isEmpty_iff.1 blank
    simp [trimEnd, none, h]
  · simp [trimEnd, blank]

theorem trimEnd_eq_nil_or_endsInked (s : List Char) : trimEnd s = [] ∨ EndsInked (trimEnd s) := by
  by_cases empty : trimEnd s = []
  · exact .inl empty
  · refine .inr ⟨(trimEnd s).getLast empty, List.getLast?_eq_some_getLast empty, ?_⟩
    exact Bool.eq_false_iff.2 (List.rdropWhile_last_not isBlank s empty)

theorem trimStart_eq_nil_or_startsInked (s : List Char) :
    trimStart s = [] ∨ StartsInked (trimStart s) := by
  by_cases empty : trimStart s = []
  · exact .inl empty
  · exact .inr ⟨_, List.head?_eq_some_head empty, List.head_dropWhile_not isBlank empty⟩

theorem trimStart_suffix (s : List Char) : trimStart s <:+ s := List.dropWhile_suffix isBlank

theorem trimStart_append (h : trimStart s ≠ []) (t : List Char) :
    trimStart (s ++ t) = trimStart s ++ t := by
  have ink : ¬(s.dropWhile isBlank).isEmpty := fun empty => h (List.isEmpty_iff.1 empty)
  rw [trimStart, List.dropWhile_append, if_neg ink, trimStart]

theorem trimEnd_isPrefix (s : List Char) : trimEnd s <+: s := List.rdropWhile_prefix isBlank s

theorem trimEnd_append (s : List Char) (h : trimEnd t ≠ []) :
    trimEnd (s ++ t) = s ++ trimEnd t := by
  have ink : ¬(t.reverse.dropWhile isBlank).isEmpty := by
    intro empty
    exact h (by rw [trimEnd, List.isEmpty_iff.1 empty, List.reverse_nil])
  rw [trimEnd, List.reverse_append, List.dropWhile_append, if_neg ink, List.reverse_append,
    List.reverse_reverse, trimEnd]

theorem exists_trimEnd_append (s : List Char) :
    ∃ blanks, s = trimEnd s ++ blanks ∧ ∀ c ∈ blanks, isBlank c = true :=
  ⟨s.rtakeWhile isBlank, List.rdropWhile_append_rtakeWhile.symm, fun _ => List.mem_rtakeWhile_imp⟩

theorem trim_infix (s : List Char) : trim s <:+: s :=
  (trimEnd_isPrefix _).isInfix.trans (trimStart_suffix s).isInfix

def Trimmed (s : List Char) : Prop := s = [] ∨ StartsInked s ∧ EndsInked s

instance (s : List Char) : Decidable (Trimmed s) := by unfold Trimmed; infer_instance

theorem Trimmed.trim_eq (h : Trimmed s) : trim s = s := by
  rcases h with rfl | ⟨starts, ends⟩
  · rfl
  · exact trim_eq_self starts ends

theorem trim_trimmed (s : List Char) : Trimmed (trim s) := by
  rcases trimEnd_eq_nil_or_endsInked (trimStart s) with empty | ends
  · exact .inl empty
  · refine .inr ⟨?_, ends⟩
    rcases trimStart_eq_nil_or_startsInked s with empty | ⟨c, hc, ink⟩
    · rw [empty] at ends
      obtain ⟨c, hc, -⟩ := ends
      cases hc
    · obtain ⟨rest, begins⟩ := List.head?_eq_some_iff.1 hc
      rw [trim, begins, ← List.nil_append (c :: rest), trimEnd_append_cons [] ink]
      exact startsInked_cons ink

end DesignTokens.Text
