import DesignTokens.Proofs.Sheet.Sealed

namespace DesignTokens.Sheet

open Text (isBlank StartsInked EndsInked)

def Token.Inline : Token → Prop
  | char c => isQuote c = false ∧ isBlank c = false ∧ c ≠ '{' ∧ c ≠ '}' ∧ c ≠ ';'
  | t => t.Whole fun _ => true

def Token.IsComment (t : Token) : Prop := ∃ text, t = .comment text

def Seam (lineComments : Bool) (ts : List Token) (rest : List Char) : Prop :=
  ∀ init t, ts = init ++ [t] → t.Clear lineComments init.isEmpty rest

/-- A line that has not ended. The second flag says whether a space may follow. -/
inductive Draft (lineComments : Bool) : Bool → List Token → Prop
  | nil : Draft lineComments false []
  | token {inked : Bool} {ts : List Token} {t : Token} (h : Draft lineComments inked ts)
    (ht : t.Inline) (first : ts = [] → ¬t.IsComment) (seam : Seam lineComments ts t.text) :
    Draft lineComments true (ts ++ [t])
  | space {ts : List Token} (h : Draft lineComments true ts) :
    Draft lineComments false (ts ++ [.char ' '])

def Reads (lineComments fresh : Bool) (s : List Char) (ts : List Token) (after : Bool)
    (rest : List Char) : Prop :=
  scan lineComments fresh s =
    (ts ++ (scan lineComments after rest).1, (scan lineComments after rest).2)

variable {lineComments fresh middle after inked : Bool} {t : Token} {ts us : List Token}
  {s rest rest' : List Char} {c : Char} {total level : Nat} {ending : Ending}

theorem Reads.nil : Reads lineComments fresh s [] fresh s := rfl

theorem Reads.append (h : Reads lineComments fresh s ts middle rest)
    (h' : Reads lineComments middle rest us after rest') :
    Reads lineComments fresh s (ts ++ us) after rest' := by
  rw [Reads] at *
  rw [h, h', List.append_assoc]

theorem Token.Found.reads (h : t.Found lineComments fresh rest) :
    Reads lineComments fresh (t.text ++ rest) [t] (t.after fresh) rest := h.scan

theorem found_char (hc : isQuote c = false) (ne : c ≠ '/') :
    (Token.char c).Found lineComments fresh rest :=
  ⟨hc, fun slash => absurd (Token.char.inj slash) ne⟩

theorem startsAfter_blank (hc : isBlank c = true) : startsAfter fresh c = fresh := by
  have other : c ≠ '{' ∧ c ≠ '}' ∧ c ≠ ';' := by
    refine ⟨?_, ?_, ?_⟩ <;>
      · rintro rfl
        cases hc
  simp [startsAfter, other, hc]

theorem reads_blank (hc : isBlank c = true) :
    Reads lineComments fresh (c :: rest) [.char c] fresh rest := by
  obtain ⟨noQuote, noSlash, -⟩ := isInert_ne (isInert_of_isBlank hc)
  have found : (Token.char c).Found lineComments fresh rest := found_char noQuote noSlash
  have read := found.reads
  rwa [Token.after, startsAfter_blank hc] at read

namespace Token.Inline

theorem whole (h : t.Inline) : t.Whole fun _ => true := by
  cases t with
  | char c => exact h.1
  | _ => exact h

theorem ink (h : t.Inline) : StartsInked t.text ∧ EndsInked t.text := by
  cases t with
  | char c => exact ⟨Text.startsInked_cons h.2.1, Text.endsInked_concat [] h.2.1⟩
  | quoted text =>
    obtain ⟨quote, body, rfl, hq, closed⟩ := h
    obtain ⟨inner, rfl, -⟩ := enclosed_of_closeQuote closed
    have ink : isBlank quote = false := by
      rw [isQuote, Bool.or_eq_true, decide_eq_true_eq, decide_eq_true_eq] at hq
      rcases hq with rfl | rfl <;> decide
    exact ⟨Text.startsInked_cons ink, Text.endsInked_concat (quote :: inner) ink⟩
  | comment text =>
    obtain ⟨body, rfl, closed⟩ := h
    have last := closeComment_getLast? closed
    refine ⟨Text.startsInked_cons (by decide), '/', ?_, by decide⟩
    rw [Token.text, List.getLast?_cons, List.getLast?_cons, last]
    rfl
  | lineComment text => cases h

theorem ne_space (h : t.Inline) : t ≠ .char ' ' := by
  rintro rfl
  exact absurd h.2.1 (by decide)

theorem after_eq (h : t.Inline) (first : fresh = true → ¬t.IsComment) : t.after fresh = false := by
  cases t with
  | char c =>
    obtain ⟨-, ink, opening, closing, noEnd⟩ := h
    simp [Token.after, startsAfter, opening, closing, noEnd, ink]
  | quoted text => rfl
  | comment text =>
    cases fresh with
    | false => rfl
    | true => exact absurd ⟨text, rfl⟩ (first rfl)
  | lineComment text => cases h

theorem found (h : t.Inline) (clear : t.Clear lineComments fresh rest) :
    t.Found lineComments fresh rest := by
  have whole := h.whole
  cases t with
  | lineComment text => cases h
  | _ => exact ⟨whole, clear⟩

theorem clear (h : t.Inline) (found : t.Found lineComments fresh rest) :
    t.Clear lineComments fresh rest := by
  cases t with
  | lineComment text => cases h
  | _ => exact found.2

theorem layout (h : t.Inline) (offset : Nat) {pending : List Char}
    (first : pending = [] → ¬t.IsComment) :
    Sheet.layout total ending level offset pending (t :: ts) =
      Sheet.layout total ending level (offset + Text.byteSize t.text) (pending ++ t.text) ts := by
  cases t with
  | char c =>
    obtain ⟨-, ink, opening, closing, noEnd⟩ := h
    exact layout_solid (t := .char c) ⟨ink, opening, closing, noEnd⟩ offset pending
  | quoted text => rw [Sheet.layout]; rfl
  | comment text =>
    rw [Sheet.layout, if_neg fun empty => first empty ⟨text, rfl⟩]
    rfl
  | lineComment text => cases h

end Token.Inline

theorem seam_of_head (star : s.head? ≠ some '*') (slash : s.head? ≠ some '/') :
    Seam lineComments ts s := fun _ _ _ _ => ⟨star, fun _ _ => slash⟩

theorem seam_blank (hc : isBlank c = true) : Seam lineComments ts (c :: s) := by
  apply seam_of_head <;>
    · intro same
      cases same
      cases hc

theorem seam_concat : Seam lineComments (ts ++ [t]) s ↔ t.Clear lineComments ts.isEmpty s := by
  constructor
  · intro h
    exact h ts t rfl
  · rintro clear init u same
    obtain ⟨rfl, rfl⟩ := List.append_singleton_inj.1 same
    exact clear

theorem seam_append (ne : s ≠ []) : Seam lineComments ts (s ++ rest) ↔ Seam lineComments ts s := by
  simp only [Seam, Token.Clear, List.head?_append_of_ne_nil _ ne]

namespace Draft

theorem seam_of_space (h : Draft lineComments false ts) : Seam lineComments ts s := by
  cases h with
  | nil => exact fun init t same => absurd same (by simp)
  | space h => exact seam_concat.2 nofun

theorem ne_nil (h : Draft lineComments true ts) : ts ≠ [] := by
  cases h with
  | token => simp

theorem startsInked (h : Draft lineComments inked ts) (ne : ts ≠ []) : StartsInked (textOf ts) := by
  induction h with
  | nil => contradiction
  | @token inked ts t _ ht _ _ ih =>
    rw [textOf_append, textOf_cons, textOf_nil, List.append_nil]
    by_cases empty : ts = []
    · subst empty
      exact ht.ink.1
    · exact (ih empty).append _
  | space h ih =>
    rw [textOf_append]
    exact (ih h.ne_nil).append _

theorem endsInked (h : Draft lineComments true ts) : EndsInked (textOf ts) := by
  cases h with
  | token _ ht =>
    rw [textOf_append, textOf_cons, textOf_nil, List.append_nil]
    exact ht.ink.2.append _

theorem textOf_eq_nil (h : Draft lineComments inked ts) : textOf ts = [] ↔ ts = [] := by
  constructor
  · intro empty
    by_contra ne
    exact (h.startsInked ne).ne_nil empty
  · rintro rfl
    rfl

theorem reads (h : Draft lineComments inked ts) (seam : Seam lineComments ts rest) :
    Reads lineComments true (textOf ts ++ rest) ts ts.isEmpty rest := by
  induction h generalizing rest with
  | nil => exact .nil
  | @token inked ts t _ ht first before ih =>
    have last : Reads lineComments ts.isEmpty (t.text ++ rest) [t] false rest := by
      have read := (ht.found (seam_concat.1 seam)).reads
      rwa [ht.after_eq fun empty => first (List.isEmpty_iff.1 empty)] at read
    have read := (ih ((seam_append ht.ink.1.ne_nil).2 before)).append last
    have filled : (ts ++ [t]).isEmpty = false := by simp
    simpa [filled] using read
  | @space ts h ih =>
    have last : Reads lineComments false (' ' :: rest) [.char ' '] false rest :=
      reads_blank (by decide)
    have front := ih (seam_blank (by decide) : Seam lineComments ts (' ' :: rest))
    rw [List.isEmpty_eq_false_iff.2 h.ne_nil] at front
    have read := front.append last
    have filled : (ts ++ [Token.char ' ']).isEmpty = false := by simp
    simpa [filled, Token.text] using read

theorem layout (h : Draft lineComments inked ts) (offset : Nat) :
    ∃ offset', Sheet.layout total ending level offset [] (ts ++ us) =
      Sheet.layout total ending level offset' (textOf ts) us := by
  induction h generalizing us with
  | nil => exact ⟨offset, rfl⟩
  | @token inked ts t h ht first _ ih =>
    obtain ⟨offset', same⟩ := @ih (t :: us)
    refine ⟨offset' + Text.byteSize t.text, ?_⟩
    rw [List.append_assoc, List.singleton_append, same,
      ht.layout _ fun empty => first (h.textOf_eq_nil.1 empty)]
    simp
  | @space ts h ih =>
    obtain ⟨offset', same⟩ := @ih (.char ' ' :: us)
    refine ⟨offset' + Text.byteSize [' '], ?_⟩
    rw [List.append_assoc, List.singleton_append, same, layout_blank (by decide),
      addBlank_of_endsInked h.endsInked]
    simp [Token.text]

end Draft

def spaced (ts : List Token) : List Token :=
  if ts = [] ∨ ts.getLast? = some (.char ' ') then ts else ts ++ [.char ' ']

def unspaced (ts : List Token) : List Token :=
  if ts.getLast? = some (.char ' ') then ts.dropLast else ts

theorem isEmpty_spaced (ts : List Token) : (spaced ts).isEmpty = ts.isEmpty := by
  by_cases gap : ts = [] ∨ ts.getLast? = some (.char ' ')
  · rw [spaced, if_pos gap]
  · rw [spaced, if_neg gap]
    rw [not_or] at gap
    rw [List.isEmpty_eq_false_iff.2 gap.1]
    exact List.isEmpty_eq_false_iff.2 (by simp)

namespace Draft

theorem spaced (h : Draft lineComments inked ts) : Draft lineComments false (spaced ts) ∧
    addBlank (textOf ts) = textOf (Sheet.spaced ts) := by
  cases h with
  | nil => exact ⟨.nil, rfl⟩
  | @token inked ts t h ht first seam =>
    have whole := Draft.token h ht first seam
    rw [Sheet.spaced, if_neg (by simpa using ht.ne_space), addBlank_of_endsInked whole.endsInked]
    exact ⟨.space whole, by simp [Token.text]⟩
  | space h =>
    rw [Sheet.spaced, if_pos (by simp)]
    exact ⟨.space h, by simp [addBlank, Token.text]⟩

theorem unspaced (h : Draft lineComments inked ts) (ne : ts ≠ []) :
    Draft lineComments true (unspaced ts) ∧
      Text.trim (textOf ts) = textOf (Sheet.unspaced ts) := by
  cases h with
  | nil => contradiction
  | @token inked ts t h ht first seam =>
    have whole := Draft.token h ht first seam
    rw [Sheet.unspaced, if_neg (by simpa using ht.ne_space)]
    exact ⟨whole, Text.trim_eq_self (whole.startsInked ne) whole.endsInked⟩
  | @space ts h =>
    rw [Sheet.unspaced, if_pos (by simp), List.dropLast_concat]
    refine ⟨h, ?_⟩
    rw [textOf_append]
    exact Text.trim_concat_blank (h.startsInked h.ne_nil) h.endsInked (by decide)

end Draft

def Lays (total level : Nat) (pending : List Char) (ts : List Token) (lines : List Line) : Prop :=
  ∀ offset, layout total .closed level offset pending ts = .ok lines

variable {pending : List Char} {more : List Line}

namespace Lays

theorem blank (hc : isBlank c = true) (h : Lays total level (addBlank pending) ts more) :
    Lays total level pending (.char c :: ts) more := by
  intro offset
  rw [layout_blank hc]
  exact h _

theorem blanks (blank : ∀ c ∈ s, isBlank c = true) (rested : addBlank pending = pending)
    (h : Lays total level pending ts more) :
    Lays total level pending (s.map .char ++ ts) more := by
  induction s with
  | nil => exact h
  | cons c s ih =>
    obtain ⟨first, others⟩ := List.forall_mem_cons.1 blank
    exact .blank first (rested.symm ▸ ih others)

theorem draft (draft : Draft lineComments inked us) (h : Lays total level (textOf us) ts more) :
    Lays total level [] (us ++ ts) more := by
  intro offset
  obtain ⟨offset', same⟩ := draft.layout offset
  rw [same]
  exact h offset'

theorem opening (h : Lays total (level + 1) [] ts more) :
    Lays total level pending (.char '{' :: ts) (openingLine level pending :: more) := by
  intro offset
  rw [layout, h]
  rfl

theorem closing (h : Lays total level [] ts more) :
    Lays total (level + 1) pending (.char '}' :: ts)
      (line? (level + 1) pending ++ ⟨level, ['}']⟩ :: more) := by
  intro offset
  rw [layout, h]
  simp [emit, Except.map]

theorem semicolon (h : Lays total level [] ts more) :
    Lays total level pending (.char ';' :: ts) (line? level (pending ++ [';']) ++ more) := by
  intro offset
  rw [layout, h]
  rfl

theorem comment {text : List Char} (h : Lays total level [] ts more) :
    Lays total level [] (.comment text :: ts) (line? level text ++ more) := by
  intro offset
  rw [layout, if_pos rfl, h]
  rfl

theorem lineComment {text : List Char} (h : Lays total level [] ts more) :
    Lays total level [] (.lineComment text :: ts) (line? level text ++ more) := by
  intro offset
  rw [layout, h]
  rfl

end Lays

end DesignTokens.Sheet
