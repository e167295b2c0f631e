import DesignTokens.Proofs.Sheet.Spelling
import DesignTokens.Sheet.Format

namespace DesignTokens.Sheet

open Text (isBlank StartsInked)

/-- The text can stand between two quote marks: each backslash protects the next character, and each
    quote mark is protected. -/
inductive Enclosed (quote : Char) : List Char → Prop
  | nil : Enclosed quote []
  | plain {c : Char} {s : List Char} (mark : c ≠ quote) (backslash : c ≠ '\\')
    (rest : Enclosed quote s) : Enclosed quote (c :: s)
  | escaped {c : Char} {s : List Char} (rest : Enclosed quote s) : Enclosed quote ('\\' :: c :: s)

structure Phrase (gap : Bool) (s : List Char) (tokens : List Token) (after : Bool) : Prop where
  text : textOf tokens = s
  snug : Snug gap tokens after
  whole : ∀ t ∈ tokens, t.Whole fun _ => true
  noStar : .char '*' ∉ tokens

def lineRow (line : String) : Row := .statement (scan false true line.toList.dropLast).1

structure Kept (line : String) : Prop where
  text : textOf (lineRow line).tokens = line.toList
  tidy : (lineRow line).Tidy
  faithful : Faithful (fun _ => true) (lineRow line).tokens
  calm : Calm true (lineRow line).tokens true

def onLines (lines : List String) : String := .join (lines.map (· ++ "\n"))

variable {quote : Char} {gap middle after : Bool} {s t : List Char} {ts us : List Token}

theorem enclosed_of_closeQuote {body rest : List Char}
    (h : closeQuote (fun _ => true) quote s = some (body, rest)) :
    ∃ inner, body = inner ++ [quote] ∧ Enclosed quote inner := by
  fun_induction closeQuote (fun _ => true) quote s generalizing body with
  | case1 => cases h
  | case2 c s _ ih =>
    obtain ⟨⟨b, r⟩, hb, hp⟩ := Option.map_eq_some_iff.1 h
    cases hp
    obtain ⟨inner, rfl, enclosed⟩ := ih hb
    exact ⟨'\\' :: c :: inner, rfl, .escaped enclosed⟩
  | case3 => contradiction
  | case4 =>
    cases h
    exact ⟨[], rfl, .nil⟩
  | case5 => cases h
  | case6 c s _ noQuote noEscape ih =>
    obtain ⟨⟨b, r⟩, hb, hp⟩ := Option.map_eq_some_iff.1 h
    cases hp
    obtain ⟨inner, rfl, enclosed⟩ := ih hb
    exact ⟨c :: inner, rfl, .plain noQuote noEscape enclosed⟩

theorem closeQuote_eq_iff_enclosed :
    closeQuote (fun _ => true) quote (s ++ [quote]) = some (s ++ [quote], []) ↔
      Enclosed quote s := by
  constructor
  · intro h
    obtain ⟨inner, same, enclosed⟩ := enclosed_of_closeQuote h
    exact List.append_cancel_right same ▸ enclosed
  · intro h
    induction h with
    | nil => simp [closeQuote]
    | plain mark backslash _ ih =>
      rw [List.cons_append, closeQuote, if_neg mark, if_neg backslash, ih]
      · rfl
      · exact fun _ _ e => absurd e backslash
    | escaped _ ih => simp [closeQuote, ih]

instance : Decidable (Enclosed quote s) := decidable_of_iff _ closeQuote_eq_iff_enclosed

namespace Phrase

theorem nil : Phrase gap [] [] gap := ⟨rfl, .done, by simp, by simp⟩

theorem append (h : Phrase gap s ts middle) (h' : Phrase middle t us after) :
    Phrase gap (s ++ t) (ts ++ us) after where
  text := by rw [textOf_append, h.text, h'.text]
  snug := h.snug.append h'.snug
  whole := List.forall_mem_append.2 ⟨h.whole, h'.whole⟩
  noStar := by simp [h.noStar, h'.noStar]

theorem space : Phrase true [' '] [.char ' '] false :=
  ⟨rfl, .space .done, by simp [Token.Whole, isQuote], by simp⟩

theorem quoted (h : Enclosed quote s) (mark : isQuote quote = true) :
    Phrase gap (quote :: s ++ [quote]) [.quoted (quote :: s ++ [quote])] true where
  text := by simp [Token.text]
  snug := by
    have ink : isBlank quote = false := by
      rw [isQuote, Bool.or_eq_true, decide_eq_true_eq, decide_eq_true_eq] at mark
      rcases mark with rfl | rfl <;> decide
    exact .solid ⟨Text.startsInked_cons ink, Text.endsInked_concat _ ink⟩ .done
  whole := by
    intro t ht
    rw [List.mem_singleton.1 ht]
    exact ⟨quote, s ++ [quote], rfl, mark, closeQuote_eq_iff_enclosed.2 h⟩
  noStar := by simp

theorem words (h : Worded gap s after) : Phrase gap s (s.map .char) after :=
  ⟨textOf_chars s, h.snug, whole_chars h.quiet, no_star_chars h.quiet⟩

theorem word (h : Quiet s) (ne : s ≠ []) : Phrase gap s (s.map .char) true where
  text := textOf_chars s
  snug := h.snug (.inr ne)
  whole := whole_chars fun c hc => .inl (h c hc)
  noStar := no_star_chars fun c hc => .inl (h c hc)

theorem plain (h : Text.Plain s) (ne : s ≠ []) : Phrase gap s (s.map .char) true :=
  word (.of_plain h) ne

theorem further (h : Quiet s) (ne : s ≠ []) :
    Phrase true (' ' :: s) (.char ' ' :: s.map .char) true :=
  space.append (word h ne)

end Phrase

theorem Snug.calm (h : Snug gap ts after) : Calm false ts false := by
  induction h with
  | done => exact .done
  | @solid _ _ t _ ht _ ih =>
    cases t with
    | char c =>
      have still : startsAfter false c = false := by
        simp [startsAfter, ht.2.1, ht.2.2.1, ht.2.2.2]
      refine .char (by simp) ?_
      rw [still]
      exact ih
    | quoted text => exact .quoted ih
    | comment text => cases ht
    | lineComment text => cases ht
  | space _ ih => exact .char (by simp) ih

theorem Phrase.calm {c : Char} (h : Phrase false (c :: s) ts after) (slash : c ≠ '/') :
    Calm true (Row.statement ts).tokens true := by
  have closing : Calm false [.char ';'] true := .char (by decide) .done
  obtain ⟨text, snug, -, -⟩ := h
  cases snug with
  | done => cases text
  | @solid _ _ t us ht rest =>
    cases t with
    | char d =>
      obtain rfl : d = c := by simpa [Token.text] using congrArg List.head? text
      have started : startsAfter true d = false := by
        simp [startsAfter, ht.1, ht.2.1, ht.2.2.1, ht.2.2.2]
      refine .char (fun e => slash e.2) ?_
      rw [started]
      exact rest.calm.append closing
    | quoted text => exact .quoted (rest.calm.append closing)
    | comment text => cases ht
    | lineComment text => cases ht

theorem Phrase.kept {c : Char} (h : Phrase false (c :: s) ts after) (slash : c ≠ '/')
    {line : String} (text : line.toList = c :: s ++ [';']) : Kept line := by
  have row : lineRow line = .statement ts := by
    have faithful := Faithful.of_no_star h.whole h.noStar
    rw [lineRow, text, List.dropLast_concat, ← h.text, faithful.scan_textOf]
  constructor <;> rw [row]
  · rw [text, Row.tokens, textOf_append, h.text]
    rfl
  · exact ⟨after, h.snug⟩
  · apply Faithful.of_no_star
    · exact List.forall_mem_append.2 ⟨h.whole, by simp [Token.Whole, isQuote]⟩
    · simp [Row.tokens, h.noStar]
  · exact h.calm slash

theorem format_eq_ok_iff {dialect : Dialect} {text out : String} (sheet : dialect ≠ .json) :
    format dialect text = .ok out ↔ tidy (dialect = .scss) text.toList = .ok out.toList := by
  cases dialect with
  | json => contradiction
  | css | scss =>
    rw [format]
    cases tidy _ text.toList with
    | error cause => simp
    | ok laid => simp [← String.toList_inj]

theorem nested_lines {level : Nat} {rows : List Row} (lines : List String)
    (h : Nested level rows) : Nested level (lines.map lineRow ++ rows) := by
  induction lines with
  | nil => exact h
  | cons line lines ih => exact ⟨by simp [lineRow], ih⟩

section

variable {lines : List String} (kept : ∀ line ∈ lines, Kept line)

include kept

theorem renderLines_kept (level : Nat) (rows : List Row) :
    renderLines (linesOf level (lines.map lineRow ++ rows)) =
      lines.flatMap (fun line => indent level ++ line.toList ++ ['\n']) ++
        renderLines (linesOf level rows) := by
  induction lines with
  | nil => rfl
  | cons line lines ih =>
    obtain ⟨first, rest⟩ := List.forall_mem_cons.1 kept
    have here : ((lineRow line).line level).render = indent level ++ line.toList ++ ['\n'] := by
      rw [Line.render, Row.line, first.text]
      rfl
    have below : (lineRow line).levelAfter level = level := rfl
    have inner := ih rest
    unfold renderLines at inner ⊢
    rw [List.map_cons, List.cons_append, linesOf, List.flatMap_cons, here, below, inner,
      List.flatMap_cons, List.append_assoc (indent level ++ _ ++ _)]

theorem forall_lineRow {P : Row → Prop} (h : ∀ line, Kept line → P (lineRow line)) :
    ∀ row ∈ lines.map lineRow, P row := by
  intro row hr
  obtain ⟨line, hl, rfl⟩ := List.mem_map.1 hr
  exact h line (kept line hl)

theorem spells_kept {rows : List Row} (rest : Spells rows ts) :
    ∃ ts', Spells (lines.map lineRow ++ rows) ts' ∧
      textOf ts' = ("\n".intercalate lines).toList ++ textOf ts := by
  have text : ∀ line ∈ lines, textOf (lineRow line).tokens = (id line).toList :=
    fun line hl => (kept line hl).text
  have spelled := spells_lines text rest
  rwa [List.map_id] at spelled

/-- The layout leaves a text of such lines as it is. -/
theorem format_lines :
    format .scss ("\n".intercalate lines ++ "\n") = .ok (onLines lines) := by
  obtain ⟨ts, spells, text⟩ := spells_kept kept (.blank (c := '\n') (by decide) .done)
  have nested : Nested 0 (lines.map lineRow ++ []) := nested_lines lines rfl
  have out := renderLines_kept kept 0 []
  rw [List.append_nil] at spells nested out
  have faithful := spells.faithful (forall_lineRow kept fun _ h => h.faithful)
  have calm := spells.calm (forall_lineRow kept fun _ h => h.calm)
  have laid : tidy true (textOf ts) = .ok (renderLines (linesOf 0 (lines.map lineRow))) :=
    spells.tidy_eq nested (forall_lineRow kept fun _ h => h.tidy) faithful (.inr calm)
  have input : ("\n".intercalate lines ++ "\n").toList = textOf ts := by
    rw [text]
    simp [Token.text]
  have output : renderLines (linesOf 0 (lines.map lineRow)) = (onLines lines).toList := by
    rw [out]
    simp [onLines, indent, linesOf, renderLines, List.flatMap_map]
  rw [output, ← input] at laid
  exact (format_eq_ok_iff (by simp)).2 laid

theorem format_block {heading : String} {selector : List Token}
    (spelled : textOf selector = heading.toList) (snug : Snug false selector true)
    (known : Faithful (fun _ => true) (Row.opening selector).tokens) :
    format .css (heading ++ " \x7b\n" ++ "\n".intercalate lines ++ "\n\x7d\n") =
      .ok (onLines ((heading ++ " \x7b") :: lines.map ("    " ++ ·) ++ ["\x7d"])) := by
  have last : Spells [.closing] (.char '\n' :: (Row.closing.tokens ++ [.char '\n'])) :=
    .blank (by decide) (.row _ (.blank (by decide) .done))
  obtain ⟨ts, inner, text⟩ := spells_kept kept last
  have spells := Spells.row (.opening selector) (.blank (c := '\n') (by decide) inner)
  have nested : Nested 0 (.opening selector :: (lines.map lineRow ++ [.closing])) :=
    ⟨by simp, nested_lines lines ⟨fun _ => Nat.one_pos, rfl⟩⟩
  have rows {P : Row → Prop} (opening : P (.opening selector)) (closing : P .closing)
      (line : ∀ line, Kept line → P (lineRow line)) :
      ∀ row ∈ Row.opening selector :: (lines.map lineRow ++ [.closing]), P row :=
    List.forall_mem_cons.2 ⟨opening, List.forall_mem_append.2
      ⟨forall_lineRow kept line, List.forall_mem_singleton.2 closing⟩⟩
  have closing : Faithful (fun _ => true) Row.closing.tokens :=
    .of_no_star (by simp [Row.tokens, Token.Whole, isQuote]) (by simp [Row.tokens])
  have faithful := spells.faithful (rows known closing fun _ h => h.faithful)
  have laid := spells.tidy_eq nested (rows snug trivial fun _ h => h.tidy) faithful (.inl rfl)
  have input : (heading ++ " \x7b\n" ++ "\n".intercalate lines ++ "\n\x7d\n").toList =
      textOf ((Row.opening selector).tokens ++ .char '\n' :: ts) := by
    simp [Row.tokens, text, spelled, Token.text]
  have first : ((Row.opening selector).line 0).render = (heading ++ " \x7b\n").toList := by
    simp [Line.render, Row.line, Row.levelAt, Row.tokens, indent, spelled, Token.text]
  have output : renderLines (linesOf 0 (.opening selector :: (lines.map lineRow ++ [.closing]))) =
      (onLines ((heading ++ " \x7b") :: lines.map ("    " ++ ·) ++ ["\x7d"])).toList := by
    have split (line : Line) (below : List Line) :
        renderLines (line :: below) = line.render ++ renderLines below := rfl
    rw [linesOf, split, first, Row.levelAfter, renderLines_kept kept]
    simp [onLines, indent, List.flatMap_map, linesOf, renderLines, Line.render, Row.line,
      Row.levelAt, Row.tokens, Token.text]
  rw [output, ← input] at laid
  exact (format_eq_ok_iff (by simp)).2 laid

end

end DesignTokens.Sheet
