import DesignTokens.Proofs.Generate.Property
import DesignTokens.Proofs.Theme.Name
import Mathlib.Data.List.Chain

/-!
Names as a stylesheet of tokens has them: words in lower case behind two dashes, with single dashes
between them. A stem that takes the place of another in such a name leaves one dash, or none, to be
told from what follows it.
-/

namespace DesignTokens

open Text (isBlank)

def IsWord (w : List Char) : Prop := w ≠ [] ∧ ∀ c ∈ w, c.isLower = true ∨ c.isDigit = true

/-- The name of a token as a custom property. -/
def Exported (name : List Char) : Prop :=
  ∃ ws, (∀ w ∈ ws, IsWord w) ∧ name = '-' :: '-' :: List.intercalate ['-'] ws

structure Spaced (s : List Char) : Prop where
  letters : ∀ c ∈ s, c.isAlphanum = true ∨ c = '-'
  apart : s.IsChain fun c d => c = '-' → d ≠ '-'
  ends : s.getLast? ≠ some '-'

variable {s t : List Char} {ws : List (List Char)} {name : List Char}

theorem intercalate_append {sep : List Char} {vs : List (List Char)} (hw : ws ≠ []) (hv : vs ≠ []) :
    List.intercalate sep (ws ++ vs) =
      List.intercalate sep ws ++ sep ++ List.intercalate sep vs := by
  induction ws with
  | nil => contradiction
  | cons w ws ih =>
    by_cases last : ws = []
    · simp [last, List.intercalate_cons_of_ne_nil hv]
    · rw [List.cons_append, List.intercalate_cons_of_ne_nil (by simp [hv]), ih last,
        List.intercalate_cons_of_ne_nil last]
      simp

theorem intercalate_flatten {sep : List Char} {wss : List (List (List Char))}
    (ne : ∀ ws ∈ wss, ws ≠ []) :
    List.intercalate sep (wss.map (List.intercalate sep)) = List.intercalate sep wss.flatten := by
  induction wss with
  | nil => rfl
  | cons ws wss ih =>
    obtain ⟨first, rest⟩ := List.forall_mem_cons.1 ne
    by_cases last : wss = []
    · simp [last]
    · have more : wss.flatten ≠ [] := by
        obtain ⟨vs, vss, rfl⟩ := List.exists_cons_of_ne_nil last
        simp [rest vs (by simp)]
      rw [List.map_cons, List.intercalate_cons_of_ne_nil (by simpa using last), ih rest,
        List.flatten_cons, intercalate_append first more]

theorem lowerAscii_word {c : Char} (h : c.isAlphanum = true) :
    (Text.lowerAscii c).isLower = true ∨ (Text.lowerAscii c).isDigit = true :=
  Text.forall_isAlphanum (p := fun c => (Text.lowerAscii c).isLower = true ∨
    (Text.lowerAscii c).isDigit = true) (by decide) c h

def Naming.lowered (name : String) : List (List Char) := (words name).map Text.lower

theorem Naming.isWord_lowered (name : String) : ∀ w ∈ lowered name, IsWord w := by
  intro w hw
  obtain ⟨v, hv, rfl⟩ := List.mem_map.1 hw
  obtain ⟨ne, alphanum⟩ := wordsFrom_alphanum (by simp) hv
  refine ⟨by simpa [Text.lower] using ne, ?_⟩
  intro c hc
  obtain ⟨d, hd, rfl⟩ := List.mem_map.1 hc
  exact lowerAscii_word (alphanum d hd)

theorem intercalate_words_eq_nil (words : ∀ w ∈ ws, IsWord w)
    (h : List.intercalate ['-'] ws = []) : ws = [] := by
  cases ws with
  | nil => rfl
  | cons w ws =>
    have ne := (words w (by simp)).1
    by_cases last : ws = []
    · simp [last, ne] at h
    · simp [List.intercalate_cons_of_ne_nil last] at h

def segment (ws : List (List Char)) : String := .ofList (List.intercalate ['-'] ws)

theorem segment_lowered (name : String) : segment (Naming.lowered name) = Naming.kebab name := rfl

def Place.words (place : Place) (token : String) : List (List (List Char)) :=
  [Naming.lowered place.collection.name,
    if place.collection.hasModes then Naming.lowered place.mode.name else [], Naming.lowered token]

theorem Place.isWord_words (place : Place) (token : String) :
    ∀ ws ∈ place.words token, ∀ w ∈ ws, IsWord w := by
  intro ws hws
  simp only [words, List.mem_cons, List.not_mem_nil, or_false] at hws
  rcases hws with rfl | rfl | rfl
  · exact Naming.isWord_lowered _
  · split
    · exact Naming.isWord_lowered _
    · simp
  · exact Naming.isWord_lowered _

theorem Place.property_eq (place : Place) (token : String) : place.property token =
    "--" ++ "-".intercalate (((place.words token).map segment).filter (· ≠ "")) := by
  have mode : segment (if place.collection.hasModes then Naming.lowered place.mode.name else []) =
      if place.collection.hasModes then Naming.kebab place.mode.name else "" := by
    split <;> rfl
  simp only [property, words, List.map_cons, List.map_nil, mode, segment_lowered]

theorem Place.toList_property (place : Place) (token : String) : (place.property token).toList =
    '-' :: '-' :: List.intercalate ['-'] (place.words token).flatten := by
  have words := place.isWord_words token
  have kept : ((place.words token).map segment).filter (· ≠ "") =
      ((place.words token).filter (· ≠ [])).map segment := by
    rw [List.filter_map]
    congr 1
    refine List.filter_congr fun ws hws => ?_
    apply decide_eq_decide.2
    apply not_congr
    constructor
    · intro empty
      exact intercalate_words_eq_nil (words ws hws) (String.ofList_eq_empty_iff.1 empty)
    · rintro rfl
      rfl
  have flat : ((place.words token).filter (· ≠ [])).flatten = (place.words token).flatten :=
    List.flatten_filter_ne_nil
  rw [place.property_eq, kept, ← flat, ← intercalate_flatten (by simp), String.toList_append,
    String.toList_intercalate, List.map_map]
  simp [segment, Function.comp_def]

theorem Place.property_exported (place : Place) (token : String) :
    Exported (place.property token).toList := by
  refine ⟨_, fun w hw => ?_, place.toList_property token⟩
  obtain ⟨ws, hws, hw⟩ := List.mem_flatten.1 hw
  exact place.isWord_words token ws hws w hw

theorem IsWord.isAlphanum {w : List Char} (h : IsWord w) : ∀ c ∈ w, c.isAlphanum = true := by
  intro c hc
  rcases h.2 c hc with lower | digit
  · have letter : c.isAlpha = true := by
      change (c.isUpper || c.isLower) = true
      rw [lower, Bool.or_true]
    simp [Char.isAlphanum, letter]
  · simp [Char.isAlphanum, digit]

namespace Spaced

theorem nil : Spaced [] := ⟨by simp, .nil, by simp⟩

theorem suffix (h : Spaced s) (ht : t <:+ s) : Spaced t := by
  obtain ⟨front, rfl⟩ := ht
  refine ⟨fun c hc => h.letters c (List.mem_append_right front hc),
    (List.isChain_append.1 h.apart).2.1, fun dash => h.ends ?_⟩
  rw [List.getLast?_append, dash]
  rfl

theorem behind_dash (h : Spaced (s ++ '-' :: t)) : t ≠ [] ∧ t.head? ≠ some '-' := by
  have tail := h.suffix (List.suffix_append s _)
  constructor
  · rintro rfl
    exact tail.ends rfl
  · intro dash
    exact (List.isChain_cons.1 tail.apart).1 '-' dash rfl rfl

theorem not_blank (h : Spaced s) : ∀ c ∈ s, isBlank c = false := by
  intro c hc
  rcases h.letters c hc with alphanum | rfl
  · exact Text.isBlank_of_isPlain (Text.isPlain_of_isAlphanum alphanum)
  · decide

theorem dropDashes_cases (h : Spaced s) :
    s = Declaration.dropDashes s ∨ s = '-' :: Declaration.dropDashes s := by
  cases s with
  | nil => exact .inl rfl
  | cons c s =>
    by_cases dash : c = '-'
    · subst dash
      obtain ⟨-, noDash⟩ := behind_dash (s := []) h
      right
      cases s with
      | nil => rfl
      | cons d s =>
        have other : d ≠ '-' := fun same => noDash (by rw [same]; rfl)
        simp [Declaration.dropDashes, other]
    · left
      simp [Declaration.dropDashes, dash]

end Spaced

theorem IsWord.no_dash {w : List Char} (h : IsWord w) : '-' ∉ w := by
  intro dash
  exact absurd (h.isAlphanum '-' dash) (by decide)

theorem IsWord.spaced {w : List Char} (h : IsWord w) : Spaced w where
  letters := fun c hc => .inl (h.isAlphanum c hc)
  apart := by
    apply List.Pairwise.isChain
    apply List.pairwise_of_forall_mem_list
    intro c hc d _ dash
    exact absurd (dash ▸ hc) h.no_dash
  ends := fun dash => h.no_dash (List.mem_of_getLast? dash)

theorem spaced_intercalate (words : ∀ w ∈ ws, IsWord w) :
    Spaced (List.intercalate ['-'] ws) ∧ (List.intercalate ['-'] ws).head? ≠ some '-' := by
  induction ws with
  | nil => exact ⟨.nil, by simp⟩
  | cons w ws ih =>
    obtain ⟨first, rest⟩ := List.forall_mem_cons.1 words
    obtain ⟨more, noDash⟩ := ih rest
    have spaced := first.spaced
    have head : w.head? ≠ some '-' := fun dash => first.no_dash (List.mem_of_head? dash)
    by_cases last : ws = []
    · simpa [last] using ⟨spaced, head⟩
    · have ne : List.intercalate ['-'] ws ≠ [] := fun empty =>
        last (intercalate_words_eq_nil rest empty)
      rw [List.intercalate_cons_of_ne_nil last, List.append_assoc, List.singleton_append]
      refine ⟨⟨?_, ?_, ?_⟩, ?_⟩
      · simp only [List.mem_append, List.mem_cons]
        rintro c (hc | rfl | hc)
        · exact spaced.letters c hc
        · exact .inr rfl
        · exact more.letters c hc
      · rw [List.isChain_append]
        refine ⟨spaced.apart, List.isChain_cons.2 ⟨?_, more.apart⟩, ?_⟩
        · rintro d hd - rfl
          exact noDash hd
        · rintro c hc d - rfl
          exact absurd hc spaced.ends
      · rw [List.getLast?_append_of_ne_nil _ (by simp), List.getLast?_cons_of_ne_nil ne]
        exact more.ends
      · rwa [List.head?_append_of_ne_nil _ first.1]

namespace Exported

theorem core (h : Exported name) :
    ∃ core, name = '-' :: '-' :: core ∧ Spaced core ∧ core.head? ≠ some '-' := by
  obtain ⟨ws, words, rfl⟩ := h
  exact ⟨_, rfl, spaced_intercalate words⟩

theorem rest {front : List Char} (h : Exported ('-' :: '-' :: front ++ s)) : Spaced s := by
  obtain ⟨core, same, spaced, -⟩ := h.core
  cases same
  exact spaced.suffix (List.suffix_append front s)

theorem not_blank (h : Exported name) : ∀ c ∈ name, isBlank c = false := by
  obtain ⟨core, rfl, spaced, -⟩ := h.core
  exact List.forall_mem_cons.2 ⟨by decide, List.forall_mem_cons.2 ⟨by decide, spaced.not_blank⟩⟩

theorem dashed (h : Exported name) : ∃ stem, name = '-' :: '-' :: stem ∧ Dashed stem := by
  obtain ⟨core, rfl, spaced, noDash⟩ := h.core
  exact ⟨core, rfl, spaced.letters, noDash⟩

end Exported

instance (w : List Char) : Decidable (IsWord w) :=
  decidable_of_iff (w ≠ [] ∧ (w.all fun c => c.isLower || c.isDigit) = true) (by simp [IsWord])

/-- Such a name can be told from its pieces between dashes. -/
theorem exported_iff : Exported name ↔ name.take 2 = ['-', '-'] ∧
    (name.drop 2 = [] ∨ ∀ w ∈ (name.drop 2).splitOn '-', IsWord w) := by
  constructor
  · rintro ⟨ws, words, rfl⟩
    refine ⟨rfl, ?_⟩
    by_cases empty : ws = []
    · exact .inl (by simp [empty])
    · right
      simpa [List.splitOn_intercalate '-' (fun w hw => (words w hw).no_dash) empty] using words
  · rintro ⟨dashes, inner⟩
    have split := List.take_append_drop 2 name
    rw [dashes] at split
    rcases inner with empty | words
    · exact ⟨[], by simp, by rw [← split, empty]; rfl⟩
    · exact ⟨_, words, by rw [List.intercalate_splitOn, ← split]; rfl⟩

instance (name : List Char) : Decidable (Exported name) := decidable_of_iff _ exported_iff.symm

end DesignTokens
