import DesignTokens.Proofs.Sheet.Rows

namespace DesignTokens.Sheet

open Text (isBlank)

def protectable (c : Char) : Bool := c ≠ '\n'

/-- The tokens that the reader finds when it takes the comments away. A quote mark whose string does
    not end is a character like others. -/
def readTokens (s : List Char) : List Token :=
  match s with
  | [] => []
  | c :: rest =>
    if isQuote c then
      match h : closeString c rest with
      | none => .char c :: readTokens rest
      | some (body, after) =>
        have : after.length ≤ rest.length := closeQuote_length h
        .quoted (c :: body) :: readTokens after
    else if c = '/' ∧ rest.head? = some '*' then
      match h : closeComment rest.tail with
      | none => [.comment s]
      | some (body, after) =>
        have : after.length ≤ rest.length := closeComment_length h
        .comment ('/' :: '*' :: body) :: readTokens after
    else .char c :: readTokens rest
  termination_by s.length
  decreasing_by all_goals simp only [List.length_cons]; omega

def Token.isComment : Token → Bool
  | comment _ => true
  | _ => false

def Idle (s : List Char) : Prop := ∀ rest, fromDashes? true (s ++ rest) = fromDashes? true rest

def pieces (before : List Char) : List Token → List (List Char)
  | [] => piece? before
  | .comment _ :: ts => pieces before ts
  | .char c :: ts =>
    if c = ';' ∨ c = '\x7d' then piece? before ++ pieces [] ts else pieces (before ++ [c]) ts
  | .quoted text :: ts => pieces (before ++ text) ts
  | .lineComment text :: ts => pieces (before ++ text) ts

def Row.candidate? : Row → Option (List Char)
  | statement body => fromDashes? true (textOf body)
  | _ => none

def Row.Plain : Row → Prop
  | opening selector => Idle (textOf selector ++ [' ', '{'])
  | _ => True

variable {level : Nat} {gap after : Bool} {ts us : List Token} {rows : List Row} {row : Row}

theorem closeString_append_right {quote : Char} (hq : isQuote quote = true) {body : List Char}
    (closed : closeQuote protectable quote body = some (body, [])) (rest : List Char) :
    closeString quote (body ++ rest) = some (body, rest) :=
  closeQuote_append_right hq closed rest

theorem withoutComments_quoted {quote : Char} (hq : isQuote quote = true) {body : List Char}
    (closed : closeQuote protectable quote body = some (body, [])) (rest : List Char) :
    withoutComments (quote :: body ++ rest) = quote :: body ++ withoutComments rest := by
  have read := closeString_append_right hq closed rest
  rw [List.cons_append, withoutComments, if_pos hq]
  split
  · next none => simp [read] at none
  · next found =>
    rw [read] at found
    cases found
    rfl

theorem withoutComments_comment {body : List Char} (closed : closeComment body = some (body, []))
    (rest : List Char) : withoutComments ('/' :: '*' :: body ++ rest) = withoutComments rest := by
  have read := closeComment_append_right closed rest
  rw [List.cons_append, List.cons_append, withoutComments, if_neg (by decide), if_pos ⟨rfl, rfl⟩]
  split
  · next none => simp [read] at none
  · next found =>
    rw [List.tail_cons, read] at found
    cases found
    rfl

theorem piecesFrom_quoted {quote : Char} (hq : isQuote quote = true) {body : List Char}
    (closed : closeQuote protectable quote body = some (body, [])) (before rest : List Char) :
    piecesFrom before (quote :: body ++ rest) = piecesFrom (before ++ quote :: body) rest := by
  have read := closeString_append_right hq closed rest
  rw [List.cons_append, piecesFrom, if_pos hq]
  split
  · next none => simp [read] at none
  · next found =>
    rw [read] at found
    cases found
    rfl

theorem withoutComments_eq (s : List Char) :
    withoutComments s = textOf ((readTokens s).filter (!·.isComment)) := by
  fun_induction readTokens s with
  | case1 => simp [withoutComments]
  | case2 c rest hq none ih =>
    rw [withoutComments, if_pos hq]
    split <;> simp_all [Token.isComment, Token.text]
  | case3 c rest hq body after closed _ ih =>
    rw [withoutComments, if_pos hq]
    split <;> simp_all [Token.isComment, Token.text]
  | case4 c rest hq slash none =>
    rw [withoutComments, if_neg hq, if_pos slash]
    split <;> simp_all [Token.isComment]
  | case5 c rest hq slash body after closed _ ih =>
    rw [withoutComments, if_neg hq, if_pos slash]
    split <;> simp_all [Token.isComment]
  | case6 c rest hq slash ih =>
    rw [withoutComments, if_neg hq, if_neg slash, ih]
    simp [Token.isComment, Token.text]

theorem Faithful.readTokens {ts : List Token} (h : Faithful protectable ts) :
    readTokens (textOf ts) = ts := by
  induction ts with
  | nil => rw [textOf_nil, Sheet.readTokens]
  | cons t ts ih =>
    have whole := h.head
    cases t with
    | char c =>
      have noComment := h.opens_no_comment
      have noQuote : isQuote c = false := whole
      rw [textOf_cons, Token.text, List.singleton_append, Sheet.readTokens,
        if_neg (by simp [noQuote]), if_neg noComment, ih h.tail]
    | quoted text =>
      obtain ⟨quote, body, rfl, hq, closed⟩ := whole
      have read := closeString_append_right hq closed (textOf ts)
      rw [textOf_cons, Token.text, List.cons_append, Sheet.readTokens, if_pos hq]
      split
      · next none => simp [read] at none
      · next found =>
        rw [read] at found
        cases found
        rw [ih h.tail]
    | comment text =>
      obtain ⟨body, rfl, closed⟩ := whole
      have read := closeComment_append_right closed (textOf ts)
      rw [textOf_cons, Token.text, List.cons_append, List.cons_append, Sheet.readTokens,
        if_neg (by decide), if_pos ⟨rfl, rfl⟩]
      split
      · next none => simp [read] at none
      · next found =>
        rw [List.tail_cons, read] at found
        cases found
        simp [ih h.tail]
    | lineComment text => cases whole

theorem Faithful.piecesFrom (h : Faithful protectable ts) (before : List Char) :
    piecesFrom before (textOf (ts.filter (!·.isComment))) = pieces before ts := by
  induction ts generalizing before with
  | nil => rw [List.filter_nil, textOf_nil, Sheet.piecesFrom, Sheet.pieces]
  | cons t ts ih =>
    have whole := h.head
    cases t with
    | char c =>
      have noQuote : isQuote c = false := whole
      rw [List.filter_cons_of_pos rfl, textOf_cons, Token.text, List.singleton_append,
        Sheet.piecesFrom, if_neg (by simp [noQuote]), ih h.tail, ih h.tail, Sheet.pieces]
    | quoted text =>
      obtain ⟨quote, body, rfl, hq, closed⟩ := whole
      rw [List.filter_cons_of_pos rfl, textOf_cons, Token.text, piecesFrom_quoted hq closed,
        ih h.tail, Sheet.pieces]
    | comment text =>
      rw [List.filter_cons_of_neg (by simp [Token.isComment]), ih h.tail, Sheet.pieces]
    | lineComment text => cases whole

theorem Faithful.pieces (h : Faithful protectable ts) (before : List Char) :
    Sheet.piecesFrom before (withoutComments (textOf ts)) = pieces before ts := by
  rw [withoutComments_eq, h.readTokens, h.piecesFrom]

theorem Snug.pieces (h : Snug gap ts after) (before : List Char) :
    Sheet.pieces before (ts ++ us) = Sheet.pieces (before ++ textOf ts) us := by
  induction h generalizing before with
  | done => simp
  | @solid gap after t ts ht _ ih =>
    rw [textOf_cons, ← List.append_assoc, ← ih]
    cases t with
    | char c =>
      rw [List.cons_append, Sheet.pieces, if_neg]
      · rfl
      · rintro (isEnd | isBrace)
        · exact ht.2.2.2 isEnd
        · exact ht.2.2.1 isBrace
    | quoted text => rw [List.cons_append, Sheet.pieces]; rfl
    | comment text => cases ht
    | lineComment text => cases ht
  | @space after ts _ ih =>
    rw [textOf_cons, ← List.append_assoc, ← ih, List.cons_append, Sheet.pieces,
      if_neg (by decide)]
    rfl

namespace Idle

variable {s t : List Char}

theorem nil : Idle [] := fun _ => rfl

theorem append (hs : Idle s) (ht : Idle t) : Idle (s ++ t) := by
  intro rest
  rw [List.append_assoc, hs, ht]

theorem blank {c : Char} (hc : isBlank c = true) : Idle [c] := by
  intro rest
  have noDash : c ≠ '-' := by
    rintro rfl
    cases hc
  rw [List.singleton_append, fromDashes?, if_neg (by simp [noDash]), hc]
  rfl

theorem candidate (h : Idle s) : fromDashes? true s = none := by
  simpa [fromDashes?] using h []

end Idle

theorem filterMap_piece? (s : List Char) :
    (piece? s).filterMap (fromDashes? true) = (fromDashes? true s).toList := by
  unfold piece?
  split
  · next empty =>
    subst empty
    rfl
  · cases h : fromDashes? true s <;> simp [h]

theorem pieces_row (tidy : row.Tidy) (plain : row.Plain) {before : List Char}
    (idle : Idle before) : ∃ before', Idle before' ∧
      (pieces before (row.tokens ++ ts)).filterMap (fromDashes? true) =
        row.candidate?.toList ++ (pieces before' ts).filterMap (fromDashes? true) := by
  cases row with
  | opening selector =>
    refine ⟨before ++ (textOf selector ++ [' ', '{']), idle.append plain, ?_⟩
    rw [Row.tokens, List.append_assoc, tidy.pieces]
    simp [pieces, Row.candidate?]
  | statement body =>
    obtain ⟨after, snug⟩ := tidy
    refine ⟨[], .nil, ?_⟩
    rw [Row.tokens, List.append_assoc, snug.pieces, List.singleton_append, pieces,
      if_pos (.inl rfl), List.filterMap_append, filterMap_piece?, idle]
    rfl
  | comment text => exact ⟨before, idle, by simp [Row.tokens, pieces, Row.candidate?]⟩
  | closing =>
    refine ⟨[], .nil, ?_⟩
    rw [Row.tokens, List.singleton_append, pieces, if_pos (.inr rfl), List.filterMap_append,
      filterMap_piece?, idle.candidate]
    rfl

theorem Spells.pieces (h : Spells rows ts) (tidy : ∀ row ∈ rows, row.Tidy)
    (plain : ∀ row ∈ rows, row.Plain) {before : List Char} (idle : Idle before) :
    (Sheet.pieces before ts).filterMap (fromDashes? true) = rows.filterMap Row.candidate? := by
  induction h generalizing before with
  | done => rw [Sheet.pieces, filterMap_piece?, idle.candidate]; rfl
  | @blank rows tokens c hc _ ih =>
    have inside : ¬(c = ';' ∨ c = '\x7d') := by
      rintro (rfl | rfl) <;> cases hc
    rw [Sheet.pieces, if_neg inside]
    exact ih tidy plain (idle.append (.blank hc))
  | row row _ ih =>
    obtain ⟨before', idle', same⟩ :=
      pieces_row (tidy row (by simp)) (plain row (by simp)) idle
    rw [same, ih (fun r hr => tidy r (List.mem_cons_of_mem row hr))
      (fun r hr => plain r (List.mem_cons_of_mem row hr)) idle', List.filterMap_cons]
    cases row.candidate? <;> rfl

theorem Row.ends_apart (row : Row) : row.tokens.getLast? ≠ some (.char '/') := by
  cases row <;> simp [Row.tokens]

theorem Spells.faithful {escapable : Char → Bool} (h : Spells rows ts)
    (faithful : ∀ row ∈ rows, Faithful escapable row.tokens) : Faithful escapable ts := by
  induction h with
  | done => exact .nil
  | @blank rows tokens c hc _ ih =>
    refine .cons ?_ ?_ (ih faithful)
    · have noQuote : c ≠ '\'' ∧ c ≠ '"' := by
        constructor <;> rintro rfl <;> cases hc
      simp [Token.Whole, isQuote, noQuote]
    · intro u _ slash
      cases slash
      cases hc
  | row row _ ih =>
    exact (faithful row (by simp)).append
      (ih fun r hr => faithful r (List.mem_cons_of_mem row hr)) row.ends_apart

theorem Spells.candidates (h : Spells rows ts) (tidy : ∀ row ∈ rows, row.Tidy)
    (plain : ∀ row ∈ rows, row.Plain)
    (faithful : ∀ row ∈ rows, Faithful protectable row.tokens) :
    Sheet.candidates (textOf ts) = rows.filterMap Row.candidate? := by
  rw [Sheet.candidates, (h.faithful faithful).pieces]
  exact h.pieces tidy plain .nil

def laidOut (level : Nat) : List Row → List Token
  | [] => []
  | row :: rows =>
    (indent (row.levelAt level)).map .char ++
      (row.tokens ++ .char '\n' :: laidOut (row.levelAfter level) rows)

theorem textOf_laidOut (level : Nat) (rows : List Row) :
    textOf (laidOut level rows) = renderLines (linesOf level rows) := by
  induction rows generalizing level with
  | nil => rfl
  | cons row rows ih =>
    simp [laidOut, linesOf, renderLines, Line.render, Row.line, Token.text, ih]

theorem spells_blanks {s : List Char} (blank : ∀ c ∈ s, isBlank c = true) (h : Spells rows ts) :
    Spells rows (s.map .char ++ ts) := by
  induction s with
  | nil => exact h
  | cons c s ih =>
    exact .blank (blank c (by simp)) (ih fun d hd => blank d (List.mem_cons_of_mem c hd))

theorem spells_laidOut (level : Nat) (rows : List Row) : Spells rows (laidOut level rows) := by
  induction rows generalizing level with
  | nil => exact .done
  | cons row rows ih =>
    apply spells_blanks
    · intro c hc
      rw [List.eq_of_mem_replicate hc]
      decide
    · exact .row row (.blank (by decide) (ih _))

/-- The layout accepts a text that spells rows, and the outcome is read as the text is. -/
theorem Spells.tidy (h : Spells rows ts) (nested : Nested 0 rows)
    (tidy : ∀ row ∈ rows, row.Tidy) (plain : ∀ row ∈ rows, row.Plain)
    (faithful : ∀ row ∈ rows, Faithful protectable row.tokens) :
    ∃ out, Sheet.tidy false (textOf ts) = .ok out ∧
      Sheet.candidates out = rows.filterMap Row.candidate? := by
  have known := (h.faithful faithful).mono (fun _ _ => rfl)
  refine ⟨renderLines (linesOf 0 rows), h.tidy_eq nested tidy known (.inl rfl), ?_⟩
  rw [← textOf_laidOut]
  exact (spells_laidOut 0 rows).candidates tidy plain faithful

end DesignTokens.Sheet
