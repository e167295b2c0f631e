import DesignTokens.Proofs.Sheet.Phrase

/-!
What the tokens of a text are, said without the scan that finds them: strings between quote marks,
comments up to their first end, line comments where statements start, and single characters. Every
text has exactly one reading.
-/

namespace DesignTokens.Sheet

def EndsNoComment (s : List Char) : Prop := ¬['*', '/'] <:+: s

def Ending.left : Ending → List Char
  | closed => []
  | openQuote left | openComment left => left

/-- The text is read as the tokens and ends in the way given. The flag says whether a statement
    starts before it. -/
inductive Lexes (lineComments : Bool) : Bool → List Char → List Token → Ending → Prop
  | done {fresh : Bool} : Lexes lineComments fresh [] [] .closed
  | quoted {fresh : Bool} {quote : Char} {inner rest : List Char} {ts : List Token}
    {ending : Ending} (mark : isQuote quote = true) (enclosed : Enclosed quote inner)
    (h : Lexes lineComments false rest ts ending) :
    Lexes lineComments fresh (quote :: inner ++ quote :: rest)
      (.quoted (quote :: inner ++ [quote]) :: ts) ending
  | comment {fresh : Bool} {inner rest : List Char} {ts : List Token} {ending : Ending}
    (noEnd : EndsNoComment inner) (h : Lexes lineComments fresh rest ts ending) :
    Lexes lineComments fresh ('/' :: '*' :: inner ++ '*' :: '/' :: rest)
      (.comment ('/' :: '*' :: inner ++ ['*', '/']) :: ts) ending
  | lineComment {line rest : List Char} {ts : List Token} {ending : Ending}
    (known : lineComments = true) (oneLine : '\n' ∉ line) (ends : ∀ c ∈ rest.head?, c = '\n')
    (h : Lexes lineComments true rest ts ending) :
    Lexes lineComments true ('/' :: '/' :: line ++ rest) (.lineComment ('/' :: '/' :: line) :: ts)
      ending
  | char {fresh : Bool} {c : Char} {rest : List Char} {ts : List Token} {ending : Ending}
    (noQuote : isQuote c = false) (noComment : c = '/' → rest.head? ≠ some '*')
    (noLine : c = '/' → lineComments = true → fresh = true → rest.head? ≠ some '/')
    (h : Lexes lineComments (startsAfter fresh c) rest ts ending) :
    Lexes lineComments fresh (c :: rest) (.char c :: ts) ending
  | openQuote {fresh : Bool} {quote : Char} {s : List Char} (mark : isQuote quote = true)
    (noEnd : ∀ inner rest, s = inner ++ quote :: rest → ¬Enclosed quote inner) :
    Lexes lineComments fresh (quote :: s) [] (.openQuote (quote :: s))
  | openComment {fresh : Bool} {s : List Char} (noEnd : EndsNoComment s) :
    Lexes lineComments fresh ('/' :: '*' :: s) [] (.openComment ('/' :: '*' :: s))

variable {lineComments fresh : Bool} {quote : Char} {s inner rest : List Char} {ts : List Token}
  {ending : Ending}

theorem closeComment_of_inner (noEnd : EndsNoComment inner) (rest : List Char) :
    closeComment (inner ++ '*' :: '/' :: rest) = some (inner ++ ['*', '/'], rest) := by
  induction inner with
  | nil => rfl
  | cons c inner ih =>
    have later : EndsNoComment inner := fun found =>
      noEnd (found.trans (List.suffix_cons c _).isInfix)
    rw [List.cons_append, closeComment, ih later]
    · rfl
    · rintro t rfl same
      -- The slash is not the one behind the text, for which there is a star before it.
      cases inner with
      | nil => cases same
      | cons d inner =>
        obtain ⟨rfl, -⟩ := List.cons.inj same
        exact noEnd (List.prefix_append ['*', '/'] inner).isInfix

theorem exists_inner_of_closeComment {body : List Char} (h : closeComment s = some (body, rest)) :
    ∃ inner, body = inner ++ ['*', '/'] ∧ EndsNoComment inner := by
  fun_induction closeComment s generalizing body with
  | case1 => cases h
  | case2 =>
    cases h
    exact ⟨[], rfl, by simp [EndsNoComment]⟩
  | case3 c s other ih =>
    obtain ⟨⟨b, r⟩, hb, hp⟩ := Option.map_eq_some_iff.1 h
    cases hp
    obtain ⟨inner, rfl, noEnd⟩ := ih hb
    refine ⟨c :: inner, rfl, fun found => ?_⟩
    rcases List.infix_cons_iff.1 found with first | later
    · obtain ⟨t, same⟩ := first
      obtain ⟨rfl, rfl⟩ := List.cons.inj same
      exact other _ rfl (closeComment_append hb)
    · exact noEnd later

theorem endsNoComment_of_closeComment (h : closeComment s = none) : EndsNoComment s := by
  rintro ⟨before, after, rfl⟩
  -- The first end of a comment in the text is this one or one before it.
  induction before with
  | nil => cases h
  | cons c before ih =>
    apply ih
    unfold closeComment at h
    split at h
    · contradiction
    · cases h
    · next same =>
      cases same
      exact Option.map_eq_none_iff.1 h

theorem closeQuote_of_enclosed (mark : isQuote quote = true) (enclosed : Enclosed quote inner)
    (rest : List Char) : closeQuote (fun _ => true) quote (inner ++ quote :: rest) =
      some (inner ++ [quote], rest) := by
  have closed := closeQuote_append_right mark (closeQuote_eq_iff_enclosed.2 enclosed) rest
  simpa using closed

theorem lexes_of_scan_nil (h : scan lineComments fresh s = ([], ending)) :
    Lexes lineComments fresh s [] ending := by
  unfold scan at h
  split at h
  · cases h
    exact .done
  · next c rest =>
    split at h
    · next mark =>
      split at h
      · next none =>
        cases h
        refine .openQuote mark fun inner after same enclosed => ?_
        rw [same, closeQuote_of_enclosed mark enclosed] at none
        cases none
      · cases h
    · split at h
      · next opens =>
        split at h
        · next none =>
          cases h
          obtain ⟨rfl, star⟩ := opens
          obtain ⟨rest, rfl⟩ := List.head?_eq_some_iff.1 star
          exact .openComment (endsNoComment_of_closeComment none)
        · cases h
      · split at h <;> cases h

theorem lexes_of_scan (h : scan lineComments fresh s = (ts, ending)) :
    Lexes lineComments fresh s ts ending := by
  induction ts generalizing fresh s with
  | nil => exact lexes_of_scan_nil h
  | cons t ts ih =>
    obtain ⟨rest, rfl, found, h⟩ := found_of_scan h
    have below := ih h
    cases t with
    | char c =>
      exact .char found.1 (fun slash => (found.2 (slash ▸ rfl)).1)
        (fun slash => (found.2 (slash ▸ rfl)).2) below
    | quoted text =>
      obtain ⟨⟨quote, body, rfl, mark, closed⟩, -⟩ := found
      obtain ⟨inner, rfl, enclosed⟩ := enclosed_of_closeQuote closed
      simpa [Token.text] using Lexes.quoted mark enclosed below
    | comment text =>
      obtain ⟨⟨body, rfl, closed⟩, -⟩ := found
      obtain ⟨inner, rfl, noEnd⟩ := exists_inner_of_closeComment closed
      simpa [Token.text, Token.after] using Lexes.comment noEnd below
    | lineComment text =>
      obtain ⟨⟨known, rfl⟩, ends, line, rfl, oneLine⟩ := found
      exact .lineComment known oneLine ends below

theorem Lexes.scan_eq (h : Lexes lineComments fresh s ts ending) :
    scan lineComments fresh s = (ts, ending) := by
  induction h with
  | done => rw [scan]
  | @quoted fresh quote inner rest ts ending mark enclosed _ ih =>
    have found : (Token.quoted (quote :: inner ++ [quote])).Found lineComments fresh rest := by
      refine ⟨⟨quote, inner ++ [quote], rfl, mark, closeQuote_eq_iff_enclosed.2 enclosed⟩, ?_⟩
      intro slash
      cases slash
    have read := found.scan
    simpa [Token.text, Token.after, ih] using read
  | @comment fresh inner rest ts ending noEnd _ ih =>
    have found : (Token.comment ('/' :: '*' :: inner ++ ['*', '/'])).Found lineComments fresh
        rest := by
      refine ⟨⟨inner ++ ['*', '/'], rfl, closeComment_of_inner noEnd []⟩, ?_⟩
      intro slash
      cases slash
    have read := found.scan
    simpa [Token.text, Token.after, ih] using read
  | @lineComment line rest ts ending known oneLine ends _ ih =>
    have found : (Token.lineComment ('/' :: '/' :: line)).Found lineComments true rest :=
      ⟨⟨known, rfl⟩, ends, line, rfl, oneLine⟩
    have read := found.scan
    simpa [Token.text, Token.after, ih] using read
  | @char fresh c rest ts ending noQuote noComment noLine _ ih =>
    have found : (Token.char c).Found lineComments fresh rest := by
      refine ⟨noQuote, fun slash => ?_⟩
      have slash : c = '/' := Token.char.inj slash
      exact ⟨noComment slash, noLine slash⟩
    have read := found.scan
    simpa [Token.text, Token.after, ih] using read
  | @openQuote fresh quote s mark noEnd =>
    rw [scan, if_pos mark]
    split
    · rfl
    · next body after closed =>
      obtain ⟨inner, rfl, enclosed⟩ := enclosed_of_closeQuote closed
      exact absurd enclosed (noEnd inner after (by simpa using closeQuote_append closed))
  | @openComment fresh s noEnd =>
    rw [scan, if_neg (by decide), if_pos ⟨rfl, rfl⟩]
    split
    · rfl
    · next body after closed =>
      rw [List.tail_cons] at closed
      obtain ⟨inner, rfl, -⟩ := exists_inner_of_closeComment closed
      exact absurd ⟨inner, after, (closeComment_append closed).symm⟩ noEnd

theorem scan_eq_iff : scan lineComments fresh s = (ts, ending) ↔
    Lexes lineComments fresh s ts ending :=
  ⟨lexes_of_scan, Lexes.scan_eq⟩

theorem Lexes.text_eq (h : Lexes lineComments fresh s ts ending) :
    s = textOf ts ++ ending.left := by
  induction h with
  | done | openQuote | openComment => rfl
  | quoted _ _ _ ih | comment _ _ ih | lineComment _ _ _ _ ih | char _ _ _ _ ih =>
    simp [Token.text, ← ih]

end DesignTokens.Sheet
