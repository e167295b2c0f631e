import DesignTokens.Proofs.Theme.Exported

namespace DesignTokens

open Text (lower)

variable {ws : List (List Char)}

namespace Naming

theorem wordsFrom_append {sep : Char} (h : sep.isAlphanum = false) (word s t : List Char) :
    wordsFrom word (s ++ sep :: t) = wordsFrom word s ++ wordsFrom [] t := by
  fun_induction wordsFrom word s with
  | case1 => simp [wordsFrom, isWordPart, h]
  | case2 word ne => simp [wordsFrom, isWordPart, h, ne]
  | case3 word c s part ih => rw [List.cons_append, wordsFrom, if_pos part, ih]
  | case4 c s part ih => rw [List.cons_append, wordsFrom, if_neg part, if_pos rfl, ih]
  | case5 word c s part ne ih =>
    rw [List.cons_append, wordsFrom, if_neg part, if_neg ne, ih, List.cons_append]

theorem wordsFrom_intercalate {sep : Char} (h : sep.isAlphanum = false) (ss : List (List Char)) :
    wordsFrom [] (List.intercalate [sep] ss) = ss.flatMap (wordsFrom []) := by
  induction ss with
  | nil => rfl
  | cons s ss ih =>
    by_cases last : ss = []
    · simp [last]
    · rw [List.intercalate_cons_of_ne_nil last, List.append_assoc, List.singleton_append,
        wordsFrom_append h, ih, List.flatMap_cons]

theorem wordsFrom_alphanums {s : List Char} (h : ∀ c ∈ s, c.isAlphanum = true) (word : List Char)
    (ne : word ++ s ≠ []) : wordsFrom word s = [word ++ s] := by
  induction s generalizing word with
  | nil => simp_all [wordsFrom]
  | cons c s ih =>
    obtain ⟨first, rest⟩ := List.forall_mem_cons.1 h
    have part : isWordPart c = true := first
    rw [wordsFrom, if_pos part, ih rest _ (by simp), List.append_assoc, List.singleton_append]

end Naming

namespace IsWord

variable {w : List Char}

theorem wordsFrom_eq (h : IsWord w) : Naming.wordsFrom [] w = [w] :=
  Naming.wordsFrom_alphanums h.isAlphanum [] h.1

theorem lower_eq (h : IsWord w) : lower w = w := by
  refine (List.map_congr_left fun c hc => ?_).trans (List.map_id w)
  have kind : (decide (97 ≤ c.val) && decide (c.val ≤ 122)) = true ∨
      (decide (48 ≤ c.val) && decide (c.val ≤ 57)) = true := h.2 c hc
  simp only [Bool.and_eq_true, decide_eq_true_eq, UInt32.le_iff_toNat_le] at kind
  change (97 ≤ c.toNat ∧ c.toNat ≤ 122) ∨ (48 ≤ c.toNat ∧ c.toNat ≤ 57) at kind
  exact Text.lowerAscii_eq_self (by omega)

end IsWord

theorem toList_segment (ws : List (List Char)) :
    (segment ws).toList = List.intercalate ['-'] ws := String.toList_ofList

namespace Naming

/-- The words of a segment are those it is made of. -/
theorem lowered_segment (words : ∀ w ∈ ws, IsWord w) : lowered (segment ws) = ws := by
  have read : Naming.words (segment ws) = ws := by
    rw [Naming.words, toList_segment, wordsFrom_intercalate (by decide),
      List.flatMap_congr fun w hw => (words w hw).wordsFrom_eq, List.flatMap_singleton']
  rw [lowered, read]
  exact (List.map_congr_left fun w hw => (words w hw).lower_eq).trans (List.map_id ws)

theorem lowered_kebab (name : String) : lowered (kebab name) = lowered name :=
  lowered_segment (isWord_lowered name)

theorem kebab_kebab (name : String) : kebab (kebab name) = kebab name := by
  rw [← segment_lowered (kebab name), lowered_kebab, segment_lowered]

theorem lowered_joined (names : List String) :
    lowered ("/".intercalate names) = names.flatMap lowered := by
  have split : words ("/".intercalate names) = names.flatMap words := by
    rw [words, String.toList_intercalate]
    exact (wordsFrom_intercalate (by decide) _).trans (List.flatMap_map _ _ _)
  rw [lowered, split, List.map_flatMap]
  rfl

end Naming

namespace Place

def names (place : Place) (token : String) : List String :=
  [place.collection.name] ++ (if place.collection.hasModes then [place.mode.name] else []) ++ [token]

theorem flatten_words (place : Place) (token : String) :
    (place.words token).flatten = (place.names token).flatMap Naming.lowered := by
  unfold words names
  split <;> simp

theorem property_eq_kebab (place : Place) (token : String) :
    place.property token = "--" ++ Naming.kebab ("/".intercalate (place.names token)) := by
  rw [← segment_lowered, Naming.lowered_joined, ← flatten_words, ← String.toList_inj,
    toList_property, String.toList_append, toList_segment]
  rfl

/-- A property is named by the words of all its names, and by these alone. Its name is that of a
    declaration as it stands. -/
theorem property_words (place place' : Place) (token token' name value : String) :
    place.property token = "--" ++ Naming.kebab ("/".intercalate (place.names token)) ∧
    (Naming.kebab (Naming.kebab name) = Naming.kebab name ∧
      ∃ ws, (∀ w ∈ ws, IsWord w) ∧ (Naming.kebab name).toList = List.intercalate ['-'] ws) ∧
    (Declaration.make (place.property token).toList value.toList).name = place.property token ∧
    (place.property token = place'.property token' ↔
      (place.names token).flatMap Naming.lowered = (place'.names token').flatMap Naming.lowered) := by
  have normal : Declaration.Normal (place.property token).toList := by
    obtain ⟨stem, named, dashed⟩ := (place.property_exported token).dashed
    exact named ▸ Declaration.normal_of_dashed dashed
  refine ⟨place.property_eq_kebab token, ⟨Naming.kebab_kebab name, ?_⟩, ?_, ?_⟩
  · exact ⟨_, Naming.isWord_lowered name, toList_segment _⟩
  · rw [Declaration.make, normal.normalName_eq, String.ofList_toList]
  · rw [property_eq_kebab, property_eq_kebab]
    constructor
    · -- The words are read back from the name that is made of them.
      intro same
      have tails := (String.append_right_inj _).1 same
      have words := congrArg Naming.lowered tails
      simpa only [Naming.lowered_kebab, Naming.lowered_joined] using words
    · intro same
      rw [← segment_lowered, ← segment_lowered, Naming.lowered_joined, Naming.lowered_joined, same]

end Place

end DesignTokens
