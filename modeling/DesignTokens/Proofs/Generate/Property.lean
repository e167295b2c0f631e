import DesignTokens.Generate.Generator
import DesignTokens.Proofs.Text.Plain

namespace DesignTokens

open Text (Plain)

def Dashed (s : List Char) : Prop :=
  (∀ c ∈ s, c.isAlphanum = true ∨ c = '-') ∧ s.head? ≠ some '-'

namespace Dashed

variable {s : List Char} {ws : List (List Char)}

theorem of_alphanum (h : ∀ c ∈ s, c.isAlphanum = true) : Dashed s := by
  refine ⟨fun c hc => .inl (h c hc), ?_⟩
  intro dash
  exact absurd (h '-' (List.mem_of_head? dash)) (by decide)

theorem plain (h : Dashed s) : Plain s := by
  intro c hc
  rcases h.1 c hc with alphanum | rfl
  · exact Text.isPlain_of_isAlphanum alphanum
  · decide

theorem intercalate (h : ∀ w ∈ ws, w ≠ [] ∧ Dashed w) : Dashed (List.intercalate ['-'] ws) := by
  induction ws with
  | nil => exact of_alphanum (by simp)
  | cons w ws ih =>
    obtain ⟨ne, first⟩ := h w (by simp)
    have rest := ih fun v hv => h v (List.mem_cons_of_mem w hv)
    by_cases last : ws = []
    · subst last
      simpa using first
    · rw [List.intercalate_cons_of_ne_nil last]
      constructor
      · intro c hc
        simp only [List.append_assoc, List.mem_append, List.mem_singleton] at hc
        rcases hc with hc | hc | hc
        · exact first.1 c hc
        · exact .inr hc
        · exact rest.1 c hc
      · obtain ⟨d, w, rfl⟩ := List.exists_cons_of_ne_nil ne
        exact first.2

end Dashed

theorem lowerAscii_isAlphanum {c : Char} (h : c.isAlphanum = true) :
    (Text.lowerAscii c).isAlphanum = true :=
  Text.forall_isAlphanum (p := fun c => (Text.lowerAscii c).isAlphanum = true) (by decide) c h

theorem upper_isAlphanum {c d : Char} (h : c.isAlphanum = true) (hd : d ∈ Text.upper c) :
    d.isAlphanum = true := by
  have all : (Text.upper c).all Char.isAlphanum = true :=
    Text.forall_isAlphanum (p := fun c => (Text.upper c).all Char.isAlphanum = true) (by decide) c h
  exact List.all_eq_true.1 all d hd

namespace Naming

theorem wordsFrom_alphanum {s word w : List Char} (read : ∀ c ∈ word, c.isAlphanum = true)
    (h : w ∈ wordsFrom word s) : w ≠ [] ∧ ∀ c ∈ w, c.isAlphanum = true := by
  fun_induction wordsFrom word s with
  | case1 => cases h
  | case2 word ne =>
    rw [List.mem_singleton.1 h]
    exact ⟨ne, read⟩
  | case3 word c s part ih =>
    apply ih _ h
    intro d hd
    rcases List.mem_append.1 hd with hd | hd
    · exact read d hd
    · rw [List.mem_singleton.1 hd]
      exact part
  | case4 c s part ih => exact ih (by simp) h
  | case5 word c s part ne ih =>
    rcases List.mem_cons.1 h with rfl | h
    · exact ⟨ne, read⟩
    · exact ih (by simp) h

theorem kebab_dashed (name : String) : Dashed (kebab name).toList := by
  rw [kebab, String.toList_ofList]
  apply Dashed.intercalate
  intro w hw
  obtain ⟨v, hv, rfl⟩ := List.mem_map.1 hw
  obtain ⟨ne, alphanum⟩ := wordsFrom_alphanum (by simp) hv
  refine ⟨by simpa [Text.lower] using ne, Dashed.of_alphanum ?_⟩
  intro c hc
  obtain ⟨d, hd, rfl⟩ := List.mem_map.1 hc
  exact lowerAscii_isAlphanum (alphanum d hd)

theorem capitalize_alphanum {s : List Char} (h : ∀ c ∈ s, c.isAlphanum = true) :
    ∀ c ∈ Text.capitalize s, c.isAlphanum = true := by
  cases s with
  | nil => simp [Text.capitalize]
  | cons c s =>
    obtain ⟨first, rest⟩ := List.forall_mem_cons.1 h
    exact List.forall_mem_append.2 ⟨fun d hd => upper_isAlphanum first hd, rest⟩

theorem camel_alphanum (name : String) : ∀ c ∈ (camel name).toList, c.isAlphanum = true := by
  have words {w : List Char} (hw : w ∈ words name) : ∀ c ∈ w, c.isAlphanum = true :=
    (wordsFrom_alphanum (by simp) hw).2
  rw [camel, String.toList_ofList]
  split
  · simp
  · next first rest found =>
    rw [found] at words
    refine List.forall_mem_append.2 ⟨fun c hc => ?_, fun c hc => ?_⟩
    · obtain ⟨d, hd, rfl⟩ := List.mem_map.1 hc
      exact lowerAscii_isAlphanum (words (by simp) d hd)
    · obtain ⟨w, hw, hc⟩ := List.mem_flatMap.1 hc
      exact capitalize_alphanum (words (List.mem_cons_of_mem first hw)) c hc

end Naming

theorem Place.property_dashed (place : Place) (token : String) :
    ∃ stem, (place.property token).toList = '-' :: '-' :: stem ∧ Dashed stem := by
  refine ⟨_, by rw [property, String.toList_append]; rfl, ?_⟩
  rw [String.toList_intercalate]
  apply Dashed.intercalate
  intro w hw
  obtain ⟨segment, hs, rfl⟩ := List.mem_map.1 hw
  obtain ⟨mem, ne⟩ := List.mem_filter.1 hs
  refine ⟨by simpa using ne, ?_⟩
  simp only [List.mem_cons, List.not_mem_nil, or_false] at mem
  rcases mem with rfl | rfl | rfl
  · exact Naming.kebab_dashed _
  · split
    · exact Naming.kebab_dashed _
    · exact Dashed.of_alphanum (by simp)
  · exact Naming.kebab_dashed _

theorem Place.file_alphanum (place : Place) :
    ∃ stem, place.file = stem ++ ".scss" ∧ ∀ c ∈ stem.toList, c.isAlphanum = true := by
  refine ⟨_, rfl, ?_⟩
  rw [String.toList_append]
  refine List.forall_mem_append.2 ⟨Naming.camel_alphanum _, ?_⟩
  split
  · rw [Naming.capitalize, String.toList_ofList]
    exact Naming.capitalize_alphanum (Naming.camel_alphanum _)
  · simp

end DesignTokens
