import DesignTokens.Path
import Mathlib.Data.List.Basic

namespace DesignTokens.Path

structure IsFileName (name : String) : Prop where
  noSlash : '/' ∉ name.toList
  noStep : name.toList ∉ [[], ['.'], ['.', '.']]

variable {name : String}

def Room (left : String) : Prop := left = "" ∨ left.toList.getLast? = some '/'

theorem pieces_self {s : List Char} (h : '/' ∉ s) : pieces s = [s] := by
  rw [pieces, List.splitOn_eq_splitOnP]
  apply List.splitOnP_eq_singleton
  intro c hc
  rw [beq_eq_false_iff_ne]
  rintro rfl
  exact h hc

theorem pieces_append (left : List Char) {right : List Char} (h : '/' ∉ right) :
    pieces (left ++ '/' :: right) = pieces left ++ [right] := by
  have last := pieces_self h
  rw [pieces, List.splitOn_eq_splitOnP] at last ⊢
  rw [List.splitOnP_append_cons, last, pieces, List.splitOn_eq_splitOnP]
  rfl

theorem pieces_ne_nil (s : List Char) : pieces s ≠ [] := List.splitOn_ne_nil '/' s

namespace IsFileName

theorem relative (h : IsFileName name) : (⟨name⟩ : Path).isAbsolute = false := by
  rw [isAbsolute, decide_eq_false_iff_not]
  intro slash
  exact h.noSlash (List.mem_of_head? slash)

theorem named (h : IsFileName name) :
    ([name.toList].filter fun piece => piece ≠ [] ∧ piece ≠ ['.']).map component =
      [.normal name.toList] := by
  have noStep := h.noStep
  simp only [List.mem_cons, List.not_mem_nil, or_false, not_or] at noStep
  have kept : component name.toList = .normal name.toList := by
    unfold component
    split
    · next parent => exact absurd parent noStep.2.2
    · rfl
  simp [noStep.1, noStep.2.1, kept]

theorem isAbsolute_append (h : IsFileName name) {left : String} (room : Room left) :
    (⟨left ++ name⟩ : Path).isAbsolute = (⟨left⟩ : Path).isAbsolute := by
  rcases room with rfl | slash
  · rw [String.empty_append, h.relative]
    rfl
  · obtain ⟨front, shape⟩ : ∃ front, left.toList = front ++ ['/'] :=
      List.getLast?_eq_some_iff.1 slash
    cases front <;> simp [isAbsolute, shape]

theorem components_append (h : IsFileName name) {left : String} (room : Room left) :
    (⟨left ++ name⟩ : Path).components = (⟨left⟩ : Path).components ++ [.normal name.toList] := by
  rcases room with rfl | slash
  · have noDot : name.toList ≠ ['.'] := fun dot => h.noStep (by simp [dot])
    have relative := h.relative
    simp only [components, String.empty_append, relative, pieces_self h.noSlash, h.named]
    simp [noDot, isAbsolute, pieces]
  · obtain ⟨front, shape⟩ : ∃ front, left.toList = front ++ ['/'] :=
      List.getLast?_eq_some_iff.1 slash
    have absolute := h.isAbsolute_append (.inr slash)
    have before : pieces left.toList = pieces front ++ [[]] := by
      rw [shape]
      exact pieces_append front (by simp)
    have whole : pieces (left ++ name).toList = pieces front ++ [name.toList] := by
      rw [String.toList_append, shape, List.append_assoc]
      exact pieces_append front h.noSlash
    have first (last : List Char) : (pieces front ++ [last]).head? = (pieces front).head? := by
      rw [List.head?_append_of_ne_nil _ (pieces_ne_nil front)]
    simp only [components, absolute, before, whole, first, List.filter_append, List.map_append,
      h.named]
    split
    · simp
    · split <;> simp

end IsFileName

theorem exists_join_append (here : Path) {left : String} (room : Room left) :
    ∃ left', Room left' ∧ ∀ name, IsFileName name → here.join ⟨left ++ name⟩ = ⟨left' ++ name⟩ := by
  by_cases absolute : (⟨left⟩ : Path).isAbsolute = true
  · refine ⟨left, room, fun name h => ?_⟩
    rw [join, h.isAbsolute_append room, if_pos absolute]
  · by_cases free : here.text = "" ∨ here.text.toList.getLast? = some '/'
    · refine ⟨here.text ++ left, ?_, fun name h => ?_⟩
      · rcases room with rfl | slash
        · simpa [Room] using free
        · exact .inr (by simp [slash])
      · rw [join, h.isAbsolute_append room, if_neg absolute, if_pos free, String.append_assoc]
    · refine ⟨here.text ++ "/" ++ left, ?_, fun name h => ?_⟩
      · rcases room with rfl | slash
        · exact .inr (by simp)
        · refine .inr ?_
          rw [String.toList_append, List.getLast?_append, slash]
          rfl
      · rw [join, h.isAbsolute_append room, if_neg absolute, if_neg free]
        simp only [String.append_assoc]

theorem exists_join (directory : Path) :
    ∃ left, Room left ∧ ∀ name, IsFileName name → directory.join ⟨name⟩ = ⟨left ++ name⟩ := by
  simpa using @exists_join_append directory "" (.inl rfl)

theorem exists_components_join (directory : Path) : ∃ front, ∀ name, IsFileName name →
    (directory.join ⟨name⟩).components = front ++ [.normal name.toList] := by
  obtain ⟨left, room, joined⟩ := exists_join directory
  exact ⟨_, fun name h => joined name h ▸ h.components_append room⟩

theorem exists_pieces_join (here directory : Path) : ∃ above, ∀ name, IsFileName name →
    pieces (here.join (directory.join ⟨name⟩)).text.toList = above ++ [name.toList] := by
  obtain ⟨left, room, joined⟩ := exists_join directory
  obtain ⟨left', room', seen⟩ := exists_join_append here room
  have whole (name : String) (h : IsFileName name) :
      (here.join (directory.join ⟨name⟩)).text = left' ++ name := by rw [joined name h, seen name h]
  rcases room' with rfl | slash
  · refine ⟨[], fun name h => ?_⟩
    rw [whole name h, String.empty_append]
    exact pieces_self h.noSlash
  · obtain ⟨front, shape⟩ : ∃ front, left'.toList = front ++ ['/'] :=
      List.getLast?_eq_some_iff.1 slash
    refine ⟨pieces front, fun name h => ?_⟩
    rw [whole name h, String.toList_append, shape, List.append_assoc]
    exact pieces_append front h.noSlash

theorem Component.key_injective : Function.Injective Component.key := by
  have codes : Function.Injective (List.map Char.toNat) :=
    Function.Injective.list_map fun _ _ => Char.toNat_inj.1
  intro c d h
  cases c <;> cases d <;> simp [Component.key, codes.eq_iff] at h ⊢
  exact h

/-- Paths are told apart by their components. -/
theorem key_eq_iff {p q : Path} : p.key = q.key ↔ p.components = q.components :=
  (List.map_injective_iff.2 Component.key_injective).eq_iff

theorem key_join_inj {directory : Path} {name other : String} (h : IsFileName name)
    (h' : IsFileName other) :
    (directory.join ⟨name⟩).key = (directory.join ⟨other⟩).key ↔ name = other := by
  obtain ⟨front, shape⟩ := exists_components_join directory
  rw [key_eq_iff, shape name h, shape other h']
  simp [String.toList_inj]

theorem join_inj {directory : Path} {name other : String} (h : IsFileName name)
    (h' : IsFileName other) : directory.join ⟨name⟩ = directory.join ⟨other⟩ ↔ name = other :=
  ⟨fun same => (key_join_inj h h').1 (congrArg key same), fun same => same ▸ rfl⟩

end DesignTokens.Path
