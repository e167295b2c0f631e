import DesignTokens.Text.Blank

/-!
The tokens of a stylesheet: quoted strings, comments, and single characters for everything else.
A backslash inside a string protects whatever character follows it. Nothing of the text is lost:
the tokens and the part that was left open make up the whole of it.
-/

namespace DesignTokens.Sheet

/-- Splits after the closing quote mark of a string whose opening mark has been read. A backslash
    protects the next character; one that `escapable` refuses leaves the string without an end. -/
def closeQuote (escapable : Char → Bool) (quote : Char) :
    List Char → Option (List Char × List Char)
  | [] => none
  | '\\' :: c :: rest =>
    if escapable c then
      (closeQuote escapable quote rest).map fun (body, after) => ('\\' :: c :: body, after)
    else none
  | c :: rest =>
    if c = quote then some ([c], rest)
    else if c = '\\' then none
    else (closeQuote escapable quote rest).map fun (body, after) => (c :: body, after)

def closeComment : List Char → Option (List Char × List Char)
  | [] => none
  | '*' :: '/' :: rest => some (['*', '/'], rest)
  | c :: rest => (closeComment rest).map fun (body, after) => (c :: body, after)

theorem closeQuote_append {escapable : Char → Bool} {quote : Char} {s body rest : List Char}
    (h : closeQuote escapable quote s = some (body, rest)) : s = body ++ rest := by
  fun_induction closeQuote escapable quote s generalizing body with
  | case1 => simp at h
  | case2 c s _ ih =>
    obtain ⟨⟨b, r⟩, hb, hp⟩ := Option.map_eq_some_iff.1 h
    obtain ⟨rfl, rfl⟩ := Prod.mk.injEq .. ▸ hp
    simp [← ih hb]
  | case3 => simp at h
  | case4 => simp at h; simp [← h.1, h.2]
  | case5 => simp at h
  | case6 c s _ _ _ ih =>
    obtain ⟨⟨b, r⟩, hb, hp⟩ := Option.map_eq_some_iff.1 h
    obtain ⟨rfl, rfl⟩ := Prod.mk.injEq .. ▸ hp
    simp [← ih hb]

theorem closeComment_append {s body rest : List Char}
    (h : closeComment s = some (body, rest)) : s = body ++ rest := by
  fun_induction closeComment s generalizing body with
  | case1 => simp at h
  | case2 => simp at h; simp [← h.1, h.2]
  | case3 c s _ ih =>
    obtain ⟨⟨b, r⟩, hb, hp⟩ := Option.map_eq_some_iff.1 h
    obtain ⟨rfl, rfl⟩ := Prod.mk.injEq .. ▸ hp
    simp [← ih hb]

theorem closeQuote_length {escapable : Char → Bool} {quote : Char} {s body rest : List Char}
    (h : closeQuote escapable quote s = some (body, rest)) : rest.length ≤ s.length := by
  simp [closeQuote_append h]

theorem closeComment_length {s body rest : List Char}
    (h : closeComment s.tail = some (body, rest)) : rest.length ≤ s.length := by
  have : rest.length ≤ s.tail.length := by simp [closeComment_append h]
  rw [List.length_tail] at this
  omega

inductive Token where
  | char (c : Char)
  | quoted (text : List Char)
  | comment (text : List Char)
  | lineComment (text : List Char)
  deriving DecidableEq

def Token.text : Token → List Char
  | char c => [c]
  | quoted text | comment text | lineComment text => text

/-- How a text ends: closed, or inside the string or comment that opens the part left over. -/
inductive Ending where
  | closed
  | openQuote (left : List Char)
  | openComment (left : List Char)
  deriving DecidableEq

def isQuote (c : Char) : Bool := c = '\'' || c = '"'

/-- Whether a statement starts after character `c`, given whether one started before it: white
    space keeps a fresh start fresh, and a brace or a semicolon makes one. -/
def startsAfter (fresh : Bool) (c : Char) : Bool :=
  c = '{' || c = '}' || c = ';' || (fresh && Text.isBlank c)

/-- The tokens of a text and its ending. Line comments are known only where `lineComments` says so
    and a statement starts; they reach to the end of their line. -/
def scan (lineComments fresh : Bool) (s : List Char) : List Token × Ending :=
  match s with
  | [] => ([], .closed)
  | c :: rest =>
    if isQuote c then
      match h : closeQuote (fun _ => true) c rest with
      | none => ([], .openQuote s)
      | some (body, after) =>
        have : after.length ≤ rest.length := closeQuote_length h
        let (tokens, ending) := scan lineComments false after
        (.quoted (c :: body) :: tokens, ending)
    else if c = '/' ∧ rest.head? = some '*' then
      match h : closeComment rest.tail with
      | none => ([], .openComment s)
      | some (body, after) =>
        have : after.length ≤ rest.length := closeComment_length h
        let (tokens, ending) := scan lineComments fresh after
        (.comment ('/' :: '*' :: body) :: tokens, ending)
    else if lineComments ∧ fresh ∧ c = '/' ∧ rest.head? = some '/' then
      let line := rest.takeWhile (· ≠ '\n')
      have : (rest.dropWhile (· ≠ '\n')).length ≤ rest.length :=
        (List.dropWhile_sublist _).length_le
      let (tokens, ending) := scan lineComments true (rest.dropWhile (· ≠ '\n'))
      (.lineComment ('/' :: line) :: tokens, ending)
    else
      let (tokens, ending) := scan lineComments (startsAfter fresh c) rest
      (.char c :: tokens, ending)
  termination_by s.length
  decreasing_by all_goals simp only [List.length_cons]; omega

end DesignTokens.Sheet
