import DesignTokens.Proofs.Sheet.Reading
import DesignTokens.Sheet.Format

namespace DesignTokens.Sheet

/-- Somewhere in a string, a backslash protects the end of a line. -/
def escapesBreak : List Char → Bool
  | [] => false
  | '\\' :: c :: rest => c = '\n' || escapesBreak rest
  | _ :: rest => escapesBreak rest

/-- The strings among tokens, each with the number of characters before it. -/
def strings (offset : Nat) : List Token → List (Nat × List Char)
  | [] => []
  | .quoted text :: ts => (offset, text) :: strings (offset + text.length) ts
  | t :: ts => strings (offset + t.text.length) ts

theorem escapesBreak_cons {c : Char} (h : c ≠ '\\') (s : List Char) :
    escapesBreak (c :: s) = escapesBreak s := by
  rw [escapesBreak]
  simp [h]

theorem isQuote_ne_backslash {c : Char} (h : isQuote c = true) : c ≠ '\\' := by
  rintro rfl
  cases h

theorem closeString_eq {quote : Char} {s body rest : List Char}
    (h : closeQuote (fun _ => true) quote s = some (body, rest)) :
    closeString quote s = if escapesBreak body then none else some (body, rest) := by
  unfold closeString
  fun_induction closeQuote (fun _ => true) quote s generalizing body with
  | case1 => cases h
  | case2 c s _ ih =>
    obtain ⟨⟨b, r⟩, hb, hp⟩ := Option.map_eq_some_iff.1 h
    cases hp
    by_cases escaped : c = '\n'
    · simp [closeQuote, escapesBreak, escaped]
    · rw [closeQuote, if_pos (by simpa using escaped), ih hb, escapesBreak]
      cases escapesBreak b <;> simp [escaped]
  | case3 => contradiction
  | case4 s other =>
    cases h
    have single : escapesBreak [quote] = false := by simp [escapesBreak]
    rw [single]
    unfold closeQuote
    split <;> simp_all
  | case5 => cases h
  | case6 c s other noQuote noEscape ih =>
    obtain ⟨⟨b, r⟩, hb, hp⟩ := Option.map_eq_some_iff.1 h
    cases hp
    rw [closeQuote, if_neg noQuote, if_neg noEscape, ih hb, escapesBreak_cons noEscape]
    · cases escapesBreak b <;> rfl
    · exact other

theorem Token.Whole.protectable {t : Token} (whole : t.Whole (fun _ => true))
    (plain : ∀ text, t = .quoted text → escapesBreak text = false) : t.Whole protectable := by
  cases t with
  | char c => exact whole
  | quoted text =>
    obtain ⟨quote, body, rfl, hq, closed⟩ := whole
    have noBreak : escapesBreak body = false := by
      rw [← escapesBreak_cons (isQuote_ne_backslash hq)]
      exact plain _ rfl
    have read := closeString_eq closed
    rw [noBreak] at read
    exact ⟨quote, body, rfl, hq, read⟩
  | comment text => exact whole
  | lineComment text => exact whole

theorem escapesBreak_of_mem_readTokens {s text : List Char} (h : .quoted text ∈ readTokens s) :
    escapesBreak text = false := by
  fun_induction readTokens s with
  | case1 => cases h
  | case2 c rest hq none ih => exact ih (by simpa using h)
  | case3 c rest hq body after closed _ ih =>
    rcases List.mem_cons.1 h with same | h
    · cases same
      rw [escapesBreak_cons (isQuote_ne_backslash hq)]
      have whole := closeString_eq (closeQuote_mono (fun _ _ => rfl) closed)
      cases breaks : escapesBreak body with
      | false => rfl
      | true => simp [breaks, closed] at whole
    · exact ih h
  | case4 => simp at h
  | case5 c rest hq slash body after closed _ ih => exact ih (by simpa using h)
  | case6 c rest hq slash ih => exact ih (by simpa using h)

theorem mem_strings {offset : Nat} {ts : List Token} {text : List Char} :
    (∃ place, (place, text) ∈ strings offset ts) ↔ .quoted text ∈ ts := by
  induction ts generalizing offset with
  | nil => simp [strings]
  | cons t ts ih =>
    cases t with
    | quoted s =>
      simp only [strings, List.mem_cons, Prod.mk.injEq, exists_or, ih]
      simp
    | char c => simp [strings, ih]
    | comment s => simp [strings, ih]
    | lineComment s => simp [strings, ih]

theorem scan_of_format {text out : String} (accepted : format .css text = .ok out) :
    ∃ tokens, scan false true text.toList = (tokens, .closed) := by
  obtain ⟨tokens, ending, scanned⟩ : ∃ tokens ending,
      scan false true text.toList = (tokens, ending) := ⟨_, _, rfl⟩
  simp only [format, tidy, reduceCtorEq, decide_false, scanned] at accepted
  cases laid : layout (Text.byteSize text.toList) ending 0 0 [] tokens with
  | error e => simp [laid, Except.map] at accepted
  | ok lines => exact ⟨tokens, closed_of_layout laid ▸ scanned⟩

/-- In a text that can be laid out, the reader finds the strings of the layout, and each where it
    is, if and only if none of them escapes the end of a line. Then the statements that it reads are
    the pieces of the layout between semicolons and closing braces, without the comments. -/
theorem strings_readTokens_iff {text out : String} (accepted : format .css text = .ok out) :
    let tokens := (scan false true text.toList).1
    (strings 0 (readTokens text.toList) = strings 0 tokens ↔
        ∀ string ∈ strings 0 tokens, escapesBreak string.2 = false) ∧
      ((∀ string ∈ strings 0 tokens, escapesBreak string.2 = false) →
        piecesFrom [] (withoutComments text.toList) = pieces [] tokens) := by
  intro tokens
  obtain ⟨ts, scanned⟩ := scan_of_format accepted
  have same : tokens = ts := congrArg Prod.fst scanned
  obtain ⟨faithful, spelled⟩ := scan_faithful scanned
  have agree (plain : ∀ string ∈ strings 0 ts, escapesBreak string.2 = false) :
      Faithful protectable ts := by
    refine ⟨fun t ht => (faithful.1 t ht).protectable ?_, faithful.2⟩
    rintro s rfl
    obtain ⟨place, found⟩ := mem_strings.2 ht
    exact plain _ found
  rw [same]
  refine ⟨⟨fun equal string found => ?_, fun plain => ?_⟩, fun plain => ?_⟩
  · rw [← equal] at found
    exact escapesBreak_of_mem_readTokens (mem_strings.1 ⟨string.1, found⟩)
  · rw [← spelled, (agree plain).readTokens]
  · rw [← spelled, (agree plain).pieces]

def pasted : String :=
  ":root \x7b\n    /* 'a */\n    --a: '/* ;\\'\\\\';\n    --b: /* \x7d \" */ \"'\x7d\n\";\n\x7d\n"

theorem pasted_agrees :
    let tokens := (scan false true pasted.toList).1
    format .css pasted = .ok pasted ∧
      strings 0 tokens = [(30, "'/* ;\\'\\\\'".toList), (61, "\"'\x7d\n\"".toList)] ∧
      strings 0 (readTokens pasted.toList) = strings 0 tokens ∧
      piecesFrom [] (withoutComments pasted.toList) = pieces [] tokens := by
  intro tokens
  have accepted : format .css pasted = .ok pasted := by decide +kernel
  have found : strings 0 tokens =
      [(30, "'/* ;\\'\\\\'".toList), (61, "\"'\x7d\n\"".toList)] := by decide +kernel
  have plain : ∀ string ∈ strings 0 tokens, escapesBreak string.2 = false := by
    rw [found]
    decide
  exact ⟨accepted, found, (strings_readTokens_iff accepted).1.2 plain,
    (strings_readTokens_iff accepted).2 plain⟩

def carriedOver : String := ":root \x7b\n    --a: 'x\\\n;y';\n    --b: 1;\n\x7d\n"

/-- To the layout it is one string. To the reader it is none, and the semicolon in it ends the
    statement. -/
theorem carriedOver_disagrees :
    let tokens := (scan false true carriedOver.toList).1
    format .css carriedOver = .ok carriedOver ∧
      strings 0 tokens = [(17, "'x\\\n;y'".toList)] ∧
      strings 0 (readTokens carriedOver.toList) = [] ∧
      (pieces [] tokens).filterMap (fromDashes? true) =
        ["--a: 'x\\\n;y'".toList, "--b: 1".toList] ∧
      candidates carriedOver.toList = ["--a: ".toList, "--b: 1".toList] := by
  refine ⟨?_, ?_, ?_, ?_, ?_⟩ <;> decide +kernel

end DesignTokens.Sheet
