import DesignTokens.Proofs.Sheet.Draft

/-!
What the layout makes of any text: entries, each on a line of its own. The lines of entries are read
back as the same entries.
-/

namespace DesignTokens.Sheet

open Text (isBlank StartsInked EndsInked)

/-- What makes a line of any text. An unfinished line ends at a brace or with the text. -/
inductive Entry where
  | opening (selector : List Token)
  | statement (body : List Token)
  | unfinished (body : List Token)
  | comment (text : List Char)
  | lineComment (text : List Char)
  | closing
  deriving DecidableEq

namespace Entry

def tokens : Entry → List Token
  | opening [] => [.char '{']
  | opening (t :: ts) => t :: ts ++ [.char ' ', .char '{']
  | statement body => body ++ [.char ';']
  | unfinished body => body
  | comment text => [.comment text]
  | lineComment text => [.lineComment text]
  | closing => [.char '}']

def levelAt (level : Nat) : Entry → Nat
  | closing => level - 1
  | _ => level

def levelAfter (level : Nat) : Entry → Nat
  | opening _ => level + 1
  | closing => level - 1
  | _ => level

def after : Entry → Bool
  | unfinished _ => false
  | _ => true

def line (level : Nat) (e : Entry) : Line := ⟨e.levelAt level, textOf e.tokens⟩

def lines (level : Nat) : List Entry → List Line
  | [] => []
  | e :: es => e.line level :: lines (e.levelAfter level) es

def spread (level : Nat) : List Entry → List Token
  | [] => []
  | e :: es =>
    (indent (e.levelAt level)).map .char ++
      (e.tokens ++ .char '\n' :: spread (e.levelAfter level) es)

def Nested (level : Nat) : List Entry → Prop
  | [] => level = 0
  | e :: es => (e = closing → 0 < level) ∧ (e.after = false → ∀ next ∈ es.head?, next = closing) ∧
      Nested (e.levelAfter level) es

def Fit (lineComments : Bool) : Entry → Prop
  | opening selector => selector = [] ∨ Draft lineComments true selector
  | statement body => ∃ inked, Draft lineComments inked body
  | unfinished body => Draft lineComments true body
  | comment text => (Token.comment text).Whole fun _ => true
  | lineComment text => lineComments = true ∧ EndsInked text ∧
      ∃ line, text = '/' :: '/' :: line ∧ '\n' ∉ line
  | closing => True

end Entry

variable {lineComments fresh inked : Bool} {e : Entry} {es : List Entry} {t : Token}
  {body ts : List Token} {s rest pending : List Char} {c : Char} {total level offset : Nat}

theorem reads_blanks (blank : ∀ c ∈ s, isBlank c = true) :
    Reads lineComments fresh (s ++ rest) (s.map .char) fresh rest := by
  induction s with
  | nil => exact .nil
  | cons c s ih =>
    obtain ⟨first, others⟩ := List.forall_mem_cons.1 blank
    exact (reads_blank first).append (ih others)

theorem isBlank_of_mem_indent {n : Nat} (h : c ∈ indent n) : isBlank c = true := by
  rw [List.eq_of_mem_replicate h]
  decide

theorem comment_ink {text : List Char} (whole : (Token.comment text).Whole fun _ => true) :
    StartsInked text ∧ EndsInked text :=
  Token.Inline.ink (t := .comment text) whole

namespace Entry

theorem tokens_opening (ne : body ≠ []) :
    (opening body).tokens = body ++ [.char ' ', .char '{'] := by
  cases body with
  | nil => contradiction
  | cons t ts => rfl

theorem textOf_spread (level : Nat) (es : List Entry) :
    textOf (spread level es) = renderLines (lines level es) := by
  induction es generalizing level with
  | nil => rfl
  | cons e es ih => simp [spread, lines, renderLines, Line.render, line, Token.text, ih]

theorem reads_mark (mark : c = '{' ∨ c = '}' ∨ c = ';') :
    Reads lineComments fresh (c :: rest) [.char c] true rest := by
  rcases mark with rfl | rfl | rfl <;>
    exact (found_char (by decide) (by decide) : Token.Found _ _ _ (.char _)).reads

theorem Fit.reads (fit : e.Fit lineComments) (turn : fresh = false → e = closing) :
    Reads lineComments fresh (textOf e.tokens ++ '\n' :: rest) e.tokens e.after ('\n' :: rest) := by
  by_cases last : e = closing
  · subst last
    exact reads_mark (.inr (.inl rfl))
  obtain rfl : fresh = true := by
    cases fresh with
    | false => exact absurd (turn rfl) last
    | true => rfl
  cases e with
  | opening selector =>
    rcases fit with rfl | draft
    · exact reads_mark (.inl rfl)
    · have seam : Seam lineComments selector (' ' :: '{' :: '\n' :: rest) := seam_blank (by decide)
      have front := draft.reads seam
      have brace : Reads lineComments selector.isEmpty ('{' :: '\n' :: rest) [.char '{'] true
        ('\n' :: rest) := reads_mark (.inl rfl)
      have read := front.append ((reads_blank (by decide)).append brace)
      simpa [tokens_opening draft.ne_nil, after, Token.text] using read
  | statement body =>
    obtain ⟨inked, draft⟩ := fit
    have seam : Seam lineComments body (';' :: '\n' :: rest) := seam_of_head (by simp) (by simp)
    have read := (draft.reads seam).append (reads_mark (.inr (.inr rfl)))
    simpa [tokens, after, Token.text] using read
  | unfinished body =>
    have draft : Draft lineComments true body := fit
    have seam : Seam lineComments body ('\n' :: rest) := seam_blank (by decide)
    have read := draft.reads seam
    rwa [List.isEmpty_eq_false_iff.2 draft.ne_nil] at read
  | comment text =>
    have found : (Token.comment text).Found lineComments true ('\n' :: rest) := ⟨fit, by simp [Token.Clear]⟩
    simpa [tokens, after, Token.after] using found.reads
  | lineComment text =>
    obtain ⟨known, -, line⟩ := fit
    have found : (Token.lineComment text).Found lineComments true ('\n' :: rest) :=
      ⟨⟨known, rfl⟩, by simp, line⟩
    simpa [tokens, after, Token.after] using found.reads
  | closing => contradiction

theorem scan_spread (fit : ∀ e ∈ es, e.Fit lineComments) (nested : Nested level es)
    (turn : fresh = false → ∀ e ∈ es.head?, e = closing) :
    scan lineComments fresh (textOf (spread level es)) = (spread level es, .closed) := by
  induction es generalizing level fresh with
  | nil => simp [spread, scan]
  | cons e es ih =>
    obtain ⟨first, others⟩ := List.forall_mem_cons.1 fit
    obtain ⟨-, next, nested⟩ := nested
    have entry := (first.reads fun no => turn no e rfl).append
      (reads_blank (by decide) : Reads _ _ ('\n' :: textOf (spread (e.levelAfter level) es)) _ _ _)
    have read := Reads.append
      (reads_blanks fun c (hc : c ∈ indent (e.levelAt level)) => isBlank_of_mem_indent hc) entry
    rw [Reads, ih others nested next] at read
    simpa [spread, Token.text] using read

end Entry

variable {more : List Line}

theorem statement_ink (h : Draft lineComments inked body) :
    StartsInked (textOf body ++ [';']) ∧ EndsInked (textOf body ++ [';']) := by
  refine ⟨?_, Text.endsInked_concat _ (by decide)⟩
  by_cases empty : body = []
  · subst empty
    exact Text.startsInked_cons (by decide)
  · exact (h.startsInked empty).append _

namespace Entry

theorem line?_nil : line? level [] = [] := rfl

theorem line_opening {selector : List Char} (h : Draft lineComments true body)
    (trimmed : Text.trim selector = textOf body) :
    openingLine level selector = (opening body).line level := by
  have ink := h.startsInked h.ne_nil
  simp [openingLine, trimmed, ink.ne_nil, line, levelAt, tokens_opening h.ne_nil, Token.text]

theorem trim_draft (h : Draft lineComments true body) :
    Text.trim (textOf body ++ [' ']) = textOf body :=
  Text.trim_concat_blank (h.startsInked h.ne_nil) h.endsInked (by decide)

theorem Fit.lays (fit : e.Fit lineComments) (finished : e.after = true)
    (partner : e = closing → 0 < level) (turn : pending ≠ [] → e = closing)
    (h : Lays total (e.levelAfter level) [] ts more) :
    Lays total level pending (e.tokens ++ .char '\n' :: ts)
      (line? level pending ++ e.line level :: more) := by
  have below {level : Nat} (h : Lays total level [] ts more) :
      Lays total level [] (.char '\n' :: ts) more := .blank (by decide) h
  by_cases last : e = closing
  · subst last
    obtain ⟨level, rfl⟩ := Nat.exists_eq_succ_of_ne_zero (Nat.ne_of_gt (partner rfl))
    exact .closing (below h)
  obtain rfl : pending = [] := by
    by_contra some
    exact last (turn some)
  cases e with
  | opening selector =>
    rcases fit with rfl | draft
    · exact .opening (below h)
    · rw [tokens_opening draft.ne_nil, List.append_assoc]
      apply Lays.draft draft
      apply Lays.blank (by decide)
      rw [addBlank_of_endsInked draft.endsInked, ← line_opening draft (trim_draft draft)]
      exact .opening (below h)
  | statement body =>
    obtain ⟨inked, draft⟩ := fit
    have ink := statement_ink draft
    have laid := Lays.draft draft (.semicolon (below h))
    rw [line?_of_inked ink.1 ink.2] at laid
    simpa [tokens, Token.text, line, levelAt, levelAfter, line?_nil] using laid
  | unfinished body => cases finished
  | comment text =>
    have ink := comment_ink fit
    have laid : Lays total level [] (.comment text :: .char '\n' :: ts) _ := .comment (below h)
    rw [line?_of_inked ink.1 ink.2] at laid
    simpa [tokens, Token.text, line, levelAt, levelAfter, line?_nil] using laid
  | lineComment text =>
    obtain ⟨-, ends, rest, rfl, -⟩ := fit
    have laid : Lays total level [] (.lineComment ('/' :: '/' :: rest) :: .char '\n' :: ts) _ :=
      .lineComment (below h)
    rw [line?_of_inked (Text.startsInked_cons (by decide)) ends] at laid
    simpa [tokens, Token.text, line, levelAt, levelAfter, line?_nil] using laid
  | closing => contradiction

theorem lays_spread (fit : ∀ e ∈ es, e.Fit lineComments) (nested : Nested level es)
    (rested : addBlank pending = pending) (turn : pending ≠ [] → ∀ e ∈ es.head?, e = closing) :
    Lays total level pending (spread level es) (line? level pending ++ lines level es) := by
  induction es generalizing level pending with
  | nil =>
    obtain rfl : level = 0 := nested
    intro offset
    simp [spread, lines, layout]
  | cons e es ih =>
    obtain ⟨first, others⟩ := List.forall_mem_cons.1 fit
    obtain ⟨partner, next, nested⟩ := nested
    apply Lays.blanks (fun c hc => isBlank_of_mem_indent hc) rested
    cases finished : e.after with
    | true =>
      have rest : Lays total (e.levelAfter level) [] (spread (e.levelAfter level) es)
          (lines (e.levelAfter level) es) := ih others nested rfl (by simp)
      exact first.lays finished partner (fun some => turn some e rfl) rest
    | false =>
      cases e with
      | unfinished body =>
        have draft : Draft lineComments true body := first
        obtain rfl : pending = [] := by
          by_contra some
          cases turn some _ rfl
        have rest : Lays total level (textOf body ++ [' ']) (spread level es)
            (line? level (textOf body ++ [' ']) ++ lines level es) :=
          ih others nested (by simp [addBlank]) fun _ => next rfl
        have ends : line? level (textOf body ++ [' ']) = [⟨level, textOf body⟩] := by
          rw [line?, trim_draft draft]
          exact if_neg (draft.startsInked draft.ne_nil).ne_nil
        rw [ends] at rest
        apply Lays.draft draft
        apply Lays.blank (by decide)
        rw [addBlank_of_endsInked draft.endsInked]
        exact rest
      | _ => cases finished

end Entry

end DesignTokens.Sheet
