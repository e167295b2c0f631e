import DesignTokens.Proofs.Sheet.Scan
import DesignTokens.Proofs.Text.Ink
import DesignTokens.Sheet.Line

/-!
Stylesheets as rows: openings of blocks, statements, comments and closing braces. A text spells its
rows with any white space between them. The layout gives each row a line of its own and otherwise
leaves it as it is.
-/

namespace DesignTokens.Sheet

open Text (isBlank StartsInked EndsInked)

inductive Row where
  | opening (selector : List Token)
  | statement (body : List Token)
  | comment (text : List Char)
  | closing
  deriving DecidableEq

namespace Row

def tokens : Row → List Token
  | opening selector => selector ++ [.char ' ', .char '{']
  | statement body => body ++ [.char ';']
  | comment text => [.comment text]
  | closing => [.char '}']

def levelAt (level : Nat) : Row → Nat
  | closing => level - 1
  | _ => level

def levelAfter (level : Nat) : Row → Nat
  | opening _ => level + 1
  | closing => level - 1
  | _ => level

def line (level : Nat) (row : Row) : Line := ⟨row.levelAt level, textOf row.tokens⟩

end Row

def linesOf (level : Nat) : List Row → List Line
  | [] => []
  | row :: rows => row.line level :: linesOf (row.levelAfter level) rows

def Nested (level : Nat) : List Row → Prop
  | [] => level = 0
  | row :: rows => (row = .closing → 0 < level) ∧ Nested (row.levelAfter level) rows

inductive Spells : List Row → List Token → Prop
  | done : Spells [] []
  | blank {rows : List Row} {tokens : List Token} {c : Char} (hc : isBlank c = true)
    (rest : Spells rows tokens) : Spells rows (.char c :: tokens)
  | row {rows : List Row} {tokens : List Token} (row : Row) (rest : Spells rows tokens) :
    Spells (row :: rows) (row.tokens ++ tokens)

def Token.Solid : Token → Prop
  | char c => isBlank c = false ∧ c ≠ '{' ∧ c ≠ '}' ∧ c ≠ ';'
  | quoted text => StartsInked text ∧ EndsInked text
  | comment _ | lineComment _ => False

/-- Tokens with single spaces between them. The flags say whether a space may stand before them and
    after them. -/
inductive Snug : Bool → List Token → Bool → Prop
  | done {gap : Bool} : Snug gap [] gap
  | solid {gap after : Bool} {t : Token} {ts : List Token} (ht : t.Solid)
    (rest : Snug true ts after) : Snug gap (t :: ts) after
  | space {after : Bool} {ts : List Token} (rest : Snug false ts after) :
    Snug true (.char ' ' :: ts) after

def Row.Tidy : Row → Prop
  | opening selector => Snug false selector true
  | statement body => ∃ after, Snug false body after
  | comment text => StartsInked text ∧ EndsInked text
  | closing => True

instance : (t : Token) → Decidable t.Solid
  | .char c => inferInstanceAs (Decidable (isBlank c = false ∧ c ≠ '{' ∧ c ≠ '}' ∧ c ≠ ';'))
  | .quoted text => inferInstanceAs (Decidable (StartsInked text ∧ EndsInked text))
  | .comment _ | .lineComment _ => isFalse id

theorem snug_cons_iff {gap after : Bool} {t : Token} {ts : List Token} :
    Snug gap (t :: ts) after ↔
      t.Solid ∧ Snug true ts after ∨ (gap = true ∧ t = .char ' ') ∧ Snug false ts after := by
  constructor
  · intro h
    cases h with
    | solid ht rest => exact .inl ⟨ht, rest⟩
    | space rest => exact .inr ⟨⟨rfl, rfl⟩, rest⟩
  · rintro (⟨ht, rest⟩ | ⟨⟨rfl, rfl⟩, rest⟩)
    · exact .solid ht rest
    · exact .space rest

instance Snug.decidable : (gap : Bool) → (ts : List Token) → (after : Bool) →
    Decidable (Snug gap ts after)
  | gap, [], after => decidable_of_iff (gap = after) ⟨fun h => h ▸ .done, fun h => by cases h; rfl⟩
  | gap, t :: ts, after =>
    have := Snug.decidable true ts after
    have := Snug.decidable false ts after
    decidable_of_iff _ snug_cons_iff.symm

instance : (row : Row) → Decidable row.Tidy
  | .opening selector => Snug.decidable false selector true
  | .statement body => inferInstanceAs (Decidable (∃ after, Snug false body after))
  | .comment text => inferInstanceAs (Decidable (StartsInked text ∧ EndsInked text))
  | .closing => .isTrue trivial

variable {total level : Nat} {ending : Ending} {gap middle after : Bool} {t : Token}
  {ts us : List Token} {rows : List Row} {row : Row}

theorem Token.Solid.startsInked (h : t.Solid) : StartsInked t.text := by
  cases t with
  | char c => exact Text.startsInked_cons h.1
  | quoted text => exact h.1
  | comment text => cases h
  | lineComment text => cases h

theorem Token.Solid.endsInked (h : t.Solid) : EndsInked t.text := by
  cases t with
  | char c => exact Text.endsInked_concat [] h.1
  | quoted text => exact h.2
  | comment text => cases h
  | lineComment text => cases h

namespace Snug

theorem append (h : Snug gap ts middle) (h' : Snug middle us after) :
    Snug gap (ts ++ us) after := by
  induction h with
  | done => exact h'
  | solid ht _ ih => exact .solid ht (ih h')
  | space _ ih => exact .space (ih h')

theorem startsInked (h : Snug false ts after) (ne : ts ≠ []) : StartsInked (textOf ts) := by
  cases h with
  | done => contradiction
  | solid ht _ => exact ht.startsInked.append _

theorem endsInked_append (h : Snug gap ts true) {pending : List Char}
    (room : gap = true → EndsInked pending) : EndsInked (pending ++ textOf ts) := by
  generalize hf : true = after at h
  induction h generalizing pending with
  | done => simpa using room hf.symm
  | solid ht _ ih =>
    rw [textOf_cons, ← List.append_assoc]
    exact ih (fun _ => ht.endsInked.append pending) hf
  | space _ ih =>
    rw [textOf_cons, ← List.append_assoc]
    exact ih (fun no => by cases no) hf

theorem endsInked (h : Snug false ts true) : EndsInked (textOf ts) :=
  @endsInked_append _ _ h [] (fun no => by cases no)

end Snug

theorem ok_of_emit {front lines : List Line} {rest : Except LayoutError (List Line)}
    (h : emit front rest = .ok lines) : ∃ more, rest = .ok more ∧ lines = front ++ more := by
  cases rest with
  | error e => cases h
  | ok more =>
    cases h
    exact ⟨more, rfl, rfl⟩

theorem closed_of_layout {offset : Nat} {pending : List Char} {lines : List Line}
    (h : layout total ending level offset pending ts = .ok lines) : ending = .closed := by
  fun_induction layout total ending level offset pending ts generalizing lines with
  | case1 | case2 | case4 | case10 => cases h
  | case3 => assumption
  | case5 | case7 | case13 =>
    rename_i ih
    exact ih h
  | case6 | case8 | case9 | case11 | case12 =>
    rename_i ih
    obtain ⟨more, laid, -⟩ := ok_of_emit h
    exact ih laid

theorem tidy_eq_ok_iff {lineComments : Bool} {s out : List Char} :
    tidy lineComments s = .ok out ↔ ∃ ts lines, scan lineComments true s = (ts, .closed) ∧
      layout (Text.byteSize s) .closed 0 0 [] ts = .ok lines ∧ renderLines lines = out := by
  rw [tidy]
  constructor
  · obtain ⟨ts, ending, scanned⟩ : ∃ ts ending, scan lineComments true s = (ts, ending) :=
      ⟨_, _, rfl⟩
    rw [scanned]
    dsimp only
    cases laid : layout (Text.byteSize s) ending 0 0 [] ts with
    | error cause => nofun
    | ok lines =>
      obtain rfl := closed_of_layout laid
      rintro ⟨⟩
      exact ⟨ts, lines, rfl, laid, rfl⟩
  · rintro ⟨ts, lines, scanned, laid, rfl⟩
    rw [scanned]
    dsimp only
    rw [laid]
    rfl

theorem layout_solid (h : t.Solid) (offset : Nat) (pending : List Char) :
    layout total ending level offset pending (t :: ts) =
      layout total ending level (offset + Text.byteSize t.text) (pending ++ t.text) ts := by
  cases t with
  | char c =>
    obtain ⟨ink, notOpening, notClosing, notEnd⟩ := h
    rw [layout, if_neg (by simp [ink])]
    · rfl
    · exact notOpening
    · exact notClosing
    · exact notEnd
  | quoted text => rw [layout]; rfl
  | comment text => cases h
  | lineComment text => cases h

theorem layout_blank {c : Char} (hc : isBlank c = true) (offset : Nat) (pending : List Char) :
    layout total ending level offset pending (.char c :: ts) =
      layout total ending level (offset + Text.byteSize [c]) (addBlank pending) ts := by
  rw [layout, if_pos hc]
  · rfl
  all_goals
    rintro rfl
    cases hc

theorem addBlank_of_endsInked {pending : List Char} (h : EndsInked pending) :
    addBlank pending = pending ++ [' '] := by
  obtain ⟨c, hc, ink⟩ := h
  have noSpace : pending.getLast? ≠ some ' ' := by
    intro space
    rw [Option.mem_def.1 hc] at space
    cases space
    cases ink
  rw [addBlank, if_neg]
  rintro (rfl | space)
  · cases hc
  · exact noSpace space

theorem Snug.layout_append (h : Snug gap ts after) {pending : List Char}
    (room : gap = true → EndsInked pending) (offset : Nat) :
    ∃ offset', layout total ending level offset pending (ts ++ us) =
      layout total ending level offset' (pending ++ textOf ts) us := by
  induction h generalizing pending offset with
  | done => exact ⟨offset, by simp⟩
  | @solid gap after t ts ht _ ih =>
    obtain ⟨offset', same⟩ := ih (fun _ => ht.endsInked.append pending)
      (offset + Text.byteSize t.text)
    refine ⟨offset', ?_⟩
    rw [List.cons_append, layout_solid ht, same, textOf_cons, List.append_assoc]
  | @space after ts _ ih =>
    obtain ⟨offset', same⟩ := @ih (pending ++ [' ']) (fun no => by cases no)
      (offset + Text.byteSize [' '])
    refine ⟨offset', ?_⟩
    rw [List.cons_append, layout_blank (by decide), addBlank_of_endsInked (room rfl), same,
      textOf_cons, List.append_assoc]
    rfl

theorem Snug.layout (h : Snug false ts after) (offset : Nat) :
    ∃ offset', Sheet.layout total ending level offset [] (ts ++ us) =
      Sheet.layout total ending level offset' (textOf ts) us :=
  h.layout_append (fun no => by cases no) offset

theorem line?_of_inked {s : List Char} (starts : StartsInked s) (ends : EndsInked s) :
    line? level s = [⟨level, s⟩] := by
  rw [line?, Text.trim_eq_self starts ends]
  exact if_neg starts.ne_nil

theorem layout_row (tidy : row.Tidy) (partner : row = .closing → 0 < level) (offset : Nat) :
    ∃ offset', layout total ending level offset [] (row.tokens ++ ts) =
      emit [row.line level] (layout total ending (row.levelAfter level) offset' [] ts) := by
  cases row with
  | opening selector =>
    have starts : StartsInked (textOf selector) := by
      apply tidy.startsInked
      rintro rfl
      cases tidy
    have ends : EndsInked (textOf selector) := Snug.endsInked tidy
    obtain ⟨offset', same⟩ := Snug.layout tidy offset
    refine ⟨offset' + Text.byteSize [' '] + Text.byteSize ['{'], ?_⟩
    rw [Row.tokens, List.append_assoc, same, List.cons_append, List.singleton_append,
      layout_blank (by decide), addBlank_of_endsInked ends, layout]
    -- The space before the brace is trimmed away and put there anew.
    have trimmed : Text.trim (textOf selector ++ [' ']) = textOf selector :=
      Text.trim_concat_blank starts ends (by decide)
    simp [openingLine, trimmed, starts.ne_nil, Row.line, Row.levelAt, Row.levelAfter, Row.tokens,
      Token.text]
  | statement body =>
    obtain ⟨after, snug⟩ := tidy
    obtain ⟨offset', same⟩ := snug.layout offset
    refine ⟨offset' + Text.byteSize [';'], ?_⟩
    have starts : StartsInked (textOf body ++ [';']) := by
      by_cases empty : body = []
      · subst empty
        exact Text.startsInked_cons (by decide)
      · exact (snug.startsInked empty).append _
    have ends : EndsInked (textOf body ++ [';']) := Text.endsInked_concat _ (by decide)
    rw [Row.tokens, List.append_assoc, same, List.singleton_append, layout,
      line?_of_inked starts ends]
    simp [Row.line, Row.levelAt, Row.levelAfter, Row.tokens, Token.text]
  | comment text =>
    refine ⟨offset + Text.byteSize text, ?_⟩
    rw [Row.tokens, List.singleton_append, layout, if_pos rfl, line?_of_inked tidy.1 tidy.2]
    simp [Row.line, Row.levelAt, Row.levelAfter, Row.tokens, Token.text]
  | closing =>
    obtain ⟨level, rfl⟩ := Nat.exists_eq_succ_of_ne_zero (Nat.ne_of_gt (partner rfl))
    refine ⟨offset + Text.byteSize ['}'], ?_⟩
    rw [Row.tokens, List.singleton_append, layout]
    simp [line?, Text.trim, Text.trimStart, Text.trimEnd, Row.line, Row.levelAt, Row.levelAfter,
      Row.tokens, Token.text]

theorem Spells.layout (h : Spells rows ts) (tidy : ∀ row ∈ rows, row.Tidy)
    (nested : Nested level rows) (offset : Nat) :
    Sheet.layout total .closed level offset [] ts = .ok (linesOf level rows) := by
  induction h generalizing level offset with
  | done =>
    cases nested
    rfl
  | blank hc _ ih => rw [layout_blank hc]; exact ih tidy nested _
  | row row _ ih =>
    obtain ⟨partner, nested⟩ := nested
    obtain ⟨offset', same⟩ := layout_row (tidy row (by simp)) partner offset
    rw [same, ih (fun r hr => tidy r (List.mem_cons_of_mem row hr)) nested offset']
    rfl

/-- The layout accepts a text that spells rows, and each row is a line. -/
theorem Spells.tidy_eq (h : Spells rows ts) (nested : Nested 0 rows)
    (tidy : ∀ row ∈ rows, row.Tidy) (faithful : Faithful (fun _ => true) ts) {lineComments : Bool}
    (calm : lineComments = false ∨ Calm true ts true) :
    Sheet.tidy lineComments (textOf ts) = .ok (renderLines (linesOf 0 rows)) := by
  rw [Sheet.tidy, faithful.scan_calm calm]
  simp only [h.layout tidy nested]
  rfl

theorem Spells.calm (h : Spells rows ts) (calm : ∀ row ∈ rows, Calm true row.tokens true) :
    Calm true ts true := by
  induction h with
  | done => exact .done
  | @blank rows tokens c hc _ ih =>
    have fresh : startsAfter true c = true := by simp [startsAfter, hc]
    refine .char ?_ ?_
    · rintro ⟨-, rfl⟩
      cases hc
    · rw [fresh]
      exact ih calm
  | row row _ ih =>
    exact (calm row (by simp)).append (ih fun r hr => calm r (List.mem_cons_of_mem row hr))

theorem spells_lines {α : Type} {row : α → Row} {line : α → String} {xs : List α}
    (text : ∀ x ∈ xs, textOf (row x).tokens = (line x).toList) (rest : Spells rows ts) :
    ∃ ts', Spells (xs.map row ++ rows) ts' ∧
      textOf ts' = ("\n".intercalate (xs.map line)).toList ++ textOf ts := by
  induction xs with
  | nil => exact ⟨ts, rest, by simp⟩
  | cons x xs ih =>
    have first := text x (by simp)
    obtain ⟨ts', spells, lines⟩ := ih fun y hy => text y (List.mem_cons_of_mem x hy)
    by_cases last : xs = []
    · subst last
      refine ⟨(row x).tokens ++ ts, .row (row x) rest, ?_⟩
      simp [first]
    · refine ⟨(row x).tokens ++ .char '\n' :: ts', .row (row x) (.blank (by decide) spells), ?_⟩
      rw [List.map_cons, String.intercalate_cons_of_ne_nil (by simpa using last)]
      simp [first, lines, Token.text]

end DesignTokens.Sheet
