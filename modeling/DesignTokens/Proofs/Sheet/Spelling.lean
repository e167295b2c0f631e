import DesignTokens.Proofs.Sheet.Reading
import DesignTokens.Proofs.Text.Plain

namespace DesignTokens.Sheet

open Text (Plain isPlain StartsInked EndsInked)

structure Spelling (value : List Char) (tokens : List Token) : Prop where
  text : textOf tokens = value
  snug : tokens = [] ∨ Snug false tokens true
  whole : ∀ t ∈ tokens, t.Whole protectable
  noStar : .char '*' ∉ tokens
  noColon : ':' ∉ value
  noEnd : value.getLast? ≠ some ';'

def isQuiet (c : Char) : Bool :=
  !Text.isBlank c && c ∉ ['\'', '"', '*', ';', '\x7b', '\x7d']

def Quiet (s : List Char) : Prop := ∀ c ∈ s, isQuiet c = true

instance (s : List Char) : Decidable (Quiet s) :=
  decidable_of_iff (s.all isQuiet = true) List.all_eq_true

variable {gap : Bool} {s value : List Char} {tokens : List Token}

namespace Spelling

theorem nil : Spelling [] [] := ⟨rfl, .inl rfl, by simp, by simp, by simp, by simp⟩

theorem inked (h : Spelling value tokens) : value = [] ∨ StartsInked value ∧ EndsInked value := by
  rcases h.snug with rfl | snug
  · exact .inl h.text.symm
  · have ne : tokens ≠ [] := by
      rintro rfl
      cases snug
    rw [← h.text]
    exact .inr ⟨snug.startsInked ne, snug.endsInked⟩

end Spelling

theorem isQuiet_inert {c : Char} (h : isQuiet c = true) :
    Text.isBlank c = false ∧ c ∉ ['\'', '"', '*', ';', '\x7b', '\x7d'] := by
  simpa only [isQuiet, Bool.and_eq_true, Bool.not_eq_true', decide_eq_true_eq] using h

theorem isQuiet_of_isPlain {c : Char} (h : isPlain c = true) : isQuiet c = true := by
  obtain ⟨ink, inert⟩ := Text.isPlain_inert h
  simp only [List.mem_cons, not_or] at inert
  simp [isQuiet, ink, inert]

theorem solid_of_isQuiet {c : Char} (h : isQuiet c = true) : (Token.char c).Solid := by
  obtain ⟨ink, inert⟩ := isQuiet_inert h
  refine ⟨ink, ?_, ?_, ?_⟩ <;> rintro rfl <;> exact absurd inert (by simp)

theorem whole_of_isQuiet {c : Char} {escapable : Char → Bool} (h : isQuiet c = true) :
    (Token.char c).Whole escapable := by
  have inert := (isQuiet_inert h).2
  simp only [List.mem_cons, not_or] at inert
  simp [Token.Whole, isQuote, inert.1, inert.2.1]

namespace Quiet

variable {t : List Char}

theorem of_plain (h : Plain s) : Quiet s := fun c hc => isQuiet_of_isPlain (h c hc)

theorem append (hs : Quiet s) (ht : Quiet t) : Quiet (s ++ t) := List.forall_mem_append.2 ⟨hs, ht⟩

theorem cons {c : Char} (hc : isQuiet c = true) (hs : Quiet s) : Quiet (c :: s) :=
  List.forall_mem_cons.2 ⟨hc, hs⟩

theorem snug (h : Quiet s) (room : gap = true ∨ s ≠ []) : Snug gap (s.map .char) true := by
  induction s generalizing gap with
  | nil =>
    obtain rfl := room.resolve_right (by simp)
    exact .done
  | cons c s ih =>
    obtain ⟨first, rest⟩ := List.forall_mem_cons.1 h
    exact .solid (solid_of_isQuiet first) (ih rest (.inl rfl))

end Quiet

theorem whole_chars {escapable : Char → Bool} (h : ∀ c ∈ s, isQuiet c = true ∨ c = ' ') :
    ∀ t ∈ s.map Token.char, t.Whole escapable := by
  intro t ht
  obtain ⟨c, hc, rfl⟩ := List.mem_map.1 ht
  rcases h c hc with quiet | rfl
  · exact whole_of_isQuiet quiet
  · exact rfl

theorem no_star_chars (h : ∀ c ∈ s, isQuiet c = true ∨ c = ' ') : .char '*' ∉ s.map Token.char := by
  intro star
  obtain ⟨c, hc, e⟩ := List.mem_map.1 star
  cases e
  exact absurd (h _ hc) (by decide)

theorem snug_plain (h : Plain s) (ne : s ≠ []) : Snug gap (s.map .char) true :=
  (Quiet.of_plain h).snug (.inr ne)

structure Worded (gap : Bool) (s : List Char) (after : Bool) : Prop where
  plain : ∀ c ∈ s, isPlain c = true ∨ c = ' '
  snug : Snug gap (s.map .char) after

namespace Worded

variable {middle after : Bool} {t : List Char}

theorem quiet (h : Worded gap s after) : ∀ c ∈ s, isQuiet c = true ∨ c = ' ' :=
  fun c hc => (h.plain c hc).imp_left isQuiet_of_isPlain

theorem word (h : Plain s) (ne : s ≠ []) : Worded gap s true :=
  ⟨fun c hc => .inl (h c hc), snug_plain h ne⟩

theorem space : Worded true [' '] false := ⟨by simp, .space .done⟩

theorem append (hs : Worded gap s middle) (ht : Worded middle t after) :
    Worded gap (s ++ t) after := by
  refine ⟨List.forall_mem_append.2 ⟨hs.plain, ht.plain⟩, ?_⟩
  rw [List.map_append]
  exact hs.snug.append ht.snug

theorem further (h : Plain s) (ne : s ≠ []) : Worded true (' ' :: s) true :=
  space.append (word h ne)

end Worded

theorem Spelling.words (h : Worded false s true) : Spelling s (s.map .char) where
  text := textOf_chars s
  snug := .inr h.snug
  whole := whole_chars h.quiet
  noStar := no_star_chars h.quiet
  noColon := by
    intro colon
    exact absurd (h.plain _ colon) (by decide)
  noEnd := by
    intro last
    exact absurd (h.plain _ (List.mem_of_getLast? last)) (by decide)

theorem Spelling.plain (h : Plain s) : ∃ tokens, Spelling s tokens := by
  by_cases empty : s = []
  · exact ⟨[], empty ▸ .nil⟩
  · exact ⟨_, .words (.word h empty)⟩

theorem Spelling.quoted (h : ∀ c ∈ s, c ≠ '\'' ∧ c ≠ '\\' ∧ c ≠ ':') :
    Spelling ('\'' :: s ++ ['\'']) [.quoted ('\'' :: s ++ ['\''])] where
  text := by simp [Token.text]
  snug := .inr (.solid ⟨Text.startsInked_cons (by decide), Text.endsInked_concat _ (by decide)⟩ .done)
  whole := by
    intro t ht
    rw [List.mem_singleton.1 ht]
    exact ⟨'\'', s ++ ['\''], rfl, rfl, closeQuote_plain fun c hc => ⟨(h c hc).1, (h c hc).2.1⟩⟩
  noStar := by simp
  noColon := by
    intro colon
    simp only [List.cons_append, List.mem_cons, List.mem_append, List.not_mem_nil, or_false] at colon
    rcases colon with e | colon | e
    · cases e
    · exact (h ':' colon).2.2 rfl
    · cases e
  noEnd := by
    rw [List.getLast?_concat]
    decide

end DesignTokens.Sheet
