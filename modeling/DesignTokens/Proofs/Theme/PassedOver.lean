import DesignTokens.Proofs.Sheet.Lexing
import DesignTokens.Proofs.Sheet.Reading
import DesignTokens.Sheet.Format
import DesignTokens.Theme.Declaration

namespace DesignTokens

namespace Sheet

open Text (isBlank)

/-- The text falls apart into complete strings and comments, and characters that open neither. -/
def Complete (s : List Char) : Prop := ∃ ts, Faithful protectable ts ∧ textOf ts = s

def statements (s : List Char) : List (List Char) := piecesFrom [] (withoutComments s)

def splitBlock (selector body s : List Char) : List Char × List Char :=
  match s with
  | [] => (selector, body)
  | c :: rest =>
    if isQuote c then
      match h : closeString c rest with
      | none => splitBlock selector (body ++ [c]) rest
      | some (inner, after) =>
        have : after.length ≤ rest.length := closeQuote_length h
        splitBlock selector (body ++ c :: inner) after
    else if c = '\x7b' then splitBlock (selector ++ body ++ [c]) [] rest
    else splitBlock selector (body ++ [c]) rest
  termination_by s.length
  decreasing_by all_goals simp only [List.length_cons]; omega

/-- The statement declares no custom property: what stands behind its last opening brace does not
    begin with two dashes. -/
def Ordinary (s : List Char) : Prop := ¬['-', '-'] <+: Text.trim (splitBlock [] [] s).2

instance (s : List Char) : Decidable (Ordinary s) :=
  inferInstanceAs (Decidable ¬['-', '-'] <+: Text.trim (splitBlock [] [] s).2)

/-- Two dashes stand behind white space or an opening brace, be it inside a string. -/
def Marked (s : List Char) : Prop :=
  ∃ before c after, s = before ++ c :: '-' :: '-' :: after ∧ (isBlank c = true ∨ c = '\x7b')

structure Unmarked (s : List Char) : Prop where
  start : ¬['-', '-'] <+: (splitBlock [] [] s).1
  selector : ¬Marked (splitBlock [] [] s).1
  body : ¬Marked (Text.trim (splitBlock [] [] s).2)

variable {s t rest blanks : List Char} {c : Char} {opens : Bool} {ts : List Token}

theorem Faithful.withoutComments_append (h : Faithful protectable ts)
    (apart : (textOf ts).getLast? = some '/' → rest.head? ≠ some '*') :
    withoutComments (textOf ts ++ rest) = withoutComments (textOf ts) ++ withoutComments rest := by
  induction ts with
  | nil => simp [withoutComments]
  | cons t ts ih =>
    have whole := h.head
    have below := ih h.tail fun slash => apart (by
      rw [textOf_cons, List.getLast?_append, slash]
      rfl)
    cases t with
    | char c =>
      have noQuote : ¬isQuote c = true := by simp [show isQuote c = false from whole]
      have noComment : ¬(c = '/' ∧ (textOf ts ++ rest).head? = some '*') := by
        rintro ⟨rfl, star⟩
        rw [List.head?_append] at star
        -- The star is in the text itself, or what follows the text begins with it.
        cases inside : (textOf ts).head? with
        | some d => exact h.opens_no_comment ⟨rfl, by simpa [inside] using star⟩
        | none =>
          have nothing := List.head?_eq_none_iff.1 inside
          exact apart (by simp [nothing, Token.text]) (by simpa [inside] using star)
      rw [textOf_cons, Token.text, List.append_assoc, List.singleton_append, List.singleton_append,
        withoutComments, if_neg noQuote, if_neg noComment, below, withoutComments, if_neg noQuote,
        if_neg h.opens_no_comment, List.cons_append]
    | quoted text =>
      obtain ⟨quote, body, rfl, hq, closed⟩ := whole
      rw [textOf_cons, Token.text, List.append_assoc, withoutComments_quoted hq closed, below,
        withoutComments_quoted hq closed, List.append_assoc]
    | comment text =>
      obtain ⟨body, rfl, closed⟩ := whole
      rw [textOf_cons, Token.text, List.append_assoc, withoutComments_comment closed, below,
        withoutComments_comment closed]
    | lineComment text => cases whole

theorem Complete.withoutComments_comment (complete : Complete s) {inner : List Char}
    (noEnd : EndsNoComment inner) (apart : s.getLast? = some '/' → t.head? ≠ some '*') :
    withoutComments (s ++ ('/' :: '*' :: inner ++ '*' :: '/' :: t)) = withoutComments (s ++ t) := by
  obtain ⟨ts, faithful, rfl⟩ := complete
  have closed := closeComment_of_inner noEnd []
  have dropped := Sheet.withoutComments_comment closed t
  rw [List.append_cons, List.append_assoc] at dropped
  rw [faithful.withoutComments_append fun _ => by simp, faithful.withoutComments_append apart]
  simpa using dropped

theorem opens_cons_iff : (opens && c = '-' && s.head? = some '-') = true ↔
    opens = true ∧ ['-', '-'] <+: c :: s := by
  rw [List.cons_prefix_cons, @eq_comm _ '-' c]
  cases s with
  | nil => simp
  | cons d s =>
    rw [List.cons_prefix_cons, @eq_comm _ '-' d]
    simp [and_assoc]

theorem marked_cons_iff : Marked (c :: s) ↔
    (isBlank c = true ∨ c = '\x7b') ∧ ['-', '-'] <+: s ∨ Marked s := by
  constructor
  · rintro ⟨before, d, after, same, opening⟩
    cases before with
    | nil =>
      obtain ⟨rfl, rfl⟩ := List.cons.inj same
      exact .inl ⟨opening, after, rfl⟩
    | cons e before =>
      obtain ⟨rfl, rfl⟩ := List.cons.inj same
      exact .inr ⟨before, d, after, rfl, opening⟩
  · rintro (⟨opening, after, rfl⟩ | ⟨before, d, after, rfl, opening⟩)
    · exact ⟨[], c, after, rfl, opening⟩
    · exact ⟨c :: before, d, after, rfl, opening⟩

theorem fromDashes?_eq_none_iff : fromDashes? opens s = none ↔
    ¬(opens = true ∧ ['-', '-'] <+: s) ∧ ¬Marked s := by
  induction s generalizing opens with
  | nil => simp [fromDashes?, Marked]
  | cons c s ih =>
    rw [fromDashes?, ← opens_cons_iff, marked_cons_iff]
    split
    · next found => simp [found]
    · next other =>
      rw [ih]
      simp only [other, Bool.or_eq_true, decide_eq_true_eq, not_or, Bool.false_eq_true,
        not_false_iff, true_and]

theorem fromDashes?_eq_none_of_notMem (h : '-' ∉ s) : fromDashes? opens s = none := by
  rw [fromDashes?_eq_none_iff]
  constructor
  · rintro ⟨-, after, rfl⟩
    exact h (by simp)
  · rintro ⟨before, c, after, rfl, -⟩
    exact h (by simp)

theorem fromDashes?_spec {found : List Char} (h : fromDashes? opens s = some found) :
    ∃ skipped, s = skipped ++ found ∧ ['-', '-'] <+: found ∧ fromDashes? opens skipped = none := by
  induction s generalizing opens with
  | nil => cases h
  | cons c s ih =>
    rw [fromDashes?] at h
    split at h
    · next here =>
      cases h
      exact ⟨[], rfl, (opens_cons_iff.1 here).2, rfl⟩
    · next other =>
      obtain ⟨skipped, rfl, begins, none⟩ := ih h
      refine ⟨c :: skipped, rfl, begins, ?_⟩
      rw [fromDashes?, if_neg, none]
      intro here
      cases skipped with
      | nil => simp at here
      | cons d skipped => exact other here

theorem fromDashes?_append_brace (s t : List Char) : fromDashes? opens (s ++ '\x7b' :: t) =
    ((fromDashes? opens (s ++ ['\x7b'])).map (· ++ t)).or (fromDashes? true t) := by
  induction s generalizing opens with
  | nil => simp [fromDashes?]
  | cons c s ih =>
    have same : (s ++ '\x7b' :: t).head? = (s ++ ['\x7b']).head? := by cases s <;> rfl
    rw [List.cons_append, List.cons_append, fromDashes?, fromDashes?, same, ih]
    split <;> simp

theorem notMem_of_blank (blank : ∀ c ∈ blanks, isBlank c = true) : '-' ∉ blanks := fun dash =>
  Bool.noConfusion (blank '-' dash)

theorem fromDashes?_append_blanks (s : List Char) (blank : ∀ c ∈ blanks, isBlank c = true) :
    fromDashes? opens (s ++ blanks) = (fromDashes? opens s).map (· ++ blanks) := by
  have noDash := notMem_of_blank blank
  induction s generalizing opens with
  | nil => exact fromDashes?_eq_none_of_notMem noDash
  | cons c s ih =>
    have same : (s ++ blanks).head? = some '-' ↔ s.head? = some '-' := by
      cases s with
      | nil => simpa using fun dash => noDash (List.mem_of_head? dash)
      | cons d s => rfl
    rw [List.cons_append, fromDashes?, fromDashes?]
    simp only [same, ih]
    split <;> simp

theorem Idle.of_blank (blank : ∀ c ∈ blanks, isBlank c = true) : Idle blanks := by
  induction blanks with
  | nil => exact .nil
  | cons c blanks ih =>
    exact Idle.append (.blank (blank c (by simp)))
      (ih fun d hd => blank d (List.mem_cons_of_mem c hd))

theorem fromDashes?_trim_eq_none_iff (s : List Char) :
    fromDashes? true (Text.trim s) = none ↔ fromDashes? true s = none := by
  obtain ⟨behind, trimmed, blank⟩ := Text.exists_trimEnd_append (Text.trimStart s)
  have ahead : Idle (s.takeWhile isBlank) := .of_blank fun _ => List.mem_takeWhile_imp
  have parts : s.takeWhile isBlank ++ Text.trimStart s = s := List.takeWhile_append_dropWhile
  have same := ahead (Text.trimStart s)
  rw [parts] at same
  rw [same, trimmed, fromDashes?_append_blanks _ blank, Option.map_eq_none_iff, Text.trim]

theorem splitBlock_append (selector body s : List Char) :
    (splitBlock selector body s).1 ++ (splitBlock selector body s).2 = selector ++ body ++ s := by
  fun_induction splitBlock selector body s with
  | case1 => simp
  | case2 _ _ _ _ _ _ ih => simp [ih]
  | case3 _ _ _ _ _ _ _ h _ ih => simp [ih, closeQuote_append h]
  | case4 _ _ _ _ ih => simpa using ih
  | case5 _ _ _ _ _ _ ih => simp [ih]

theorem splitBlock_selector {selector : List Char} (body s : List Char)
    (h : selector = [] ∨ ∃ u, selector = u ++ ['\x7b']) :
    (splitBlock selector body s).1 = [] ∨ ∃ u, (splitBlock selector body s).1 = u ++ ['\x7b'] := by
  fun_induction splitBlock selector body s with
  | case1 => exact h
  | case2 _ _ _ _ _ _ ih => exact ih h
  | case3 _ _ _ _ _ _ _ _ _ ih => exact ih h
  | case4 selector body rest _ ih => exact ih (.inr ⟨selector ++ body, rfl⟩)
  | case5 _ _ _ _ _ _ ih => exact ih h

theorem fromDashes?_splitBlock (s : List Char) : fromDashes? true s = none ↔
    fromDashes? true (splitBlock [] [] s).1 = none ∧
      fromDashes? true (splitBlock [] [] s).2 = none := by
  have whole := splitBlock_append [] [] s
  have ends := splitBlock_selector [] s (.inl rfl)
  generalize splitBlock [] [] s = parts at whole ends ⊢
  obtain ⟨selector, body⟩ := parts
  obtain rfl : selector ++ body = s := by simpa using whole
  rcases ends with none | ⟨u, brace⟩
  · obtain rfl : selector = [] := none
    simp [fromDashes?]
  · obtain rfl : selector = u ++ ['\x7b'] := brace
    rw [List.append_assoc, List.singleton_append, fromDashes?_append_brace]
    simp

theorem Ordinary.unmarked_iff (h : Ordinary s) : Unmarked s ↔ fromDashes? true s = none := by
  rw [fromDashes?_splitBlock, ← fromDashes?_trim_eq_none_iff (splitBlock [] [] s).2,
    fromDashes?_eq_none_iff, fromDashes?_eq_none_iff]
  constructor
  · rintro ⟨start, selector, body⟩
    exact ⟨⟨fun begins => start begins.2, selector⟩, fun begins => h begins.2, body⟩
  · rintro ⟨⟨start, selector⟩, -, body⟩
    exact ⟨fun begins => start ⟨rfl, begins⟩, selector, body⟩

end Sheet

namespace Declaration

open Sheet (Complete EndsNoComment Ordinary Marked Unmarked)

def readStatements (ss : List (List Char)) : Except ThemeError (List Declaration) :=
  (ss.filterMap (Sheet.fromDashes? true)).mapM fun s => parse (Text.trim s)

theorem ofSheet_eq (text : String) : ofSheet text = readStatements (Sheet.statements text.toList) :=
  rfl

theorem readStatements_append (ss ss' : List (List Char)) :
    readStatements (ss ++ ss') = (do
      let ds ← readStatements ss
      let ds' ← readStatements ss'
      pure (ds ++ ds')) := by
  rw [readStatements, List.filterMap_append, List.mapM_append]
  rfl

/-- A comment is invisible wherever it stands: the same is read without it. -/
theorem ofSheet_comment {u body w : String} (complete : Complete u.toList)
    (noEnd : EndsNoComment body.toList)
    (apart : u.toList.getLast? = some '/' → w.toList.head? ≠ some '*') :
    ofSheet (u ++ "/*" ++ body ++ "*/" ++ w) = ofSheet (u ++ w) := by
  have same := complete.withoutComments_comment noEnd apart
  have spelled : (u ++ "/*" ++ body ++ "*/" ++ w).toList =
      u.toList ++ ('/' :: '*' :: body.toList ++ '*' :: '/' :: w.toList) := by simp
  rw [ofSheet_eq, ofSheet_eq, Sheet.statements, Sheet.statements, spelled, same,
    String.toList_append]

theorem ofSheet_comment_inside :
    let u := ":root \x7b\n    --glob: 'src/*';\n    --a: r"
    let body := "' \"; --x: 1; \x7d /*"
    let w := "ed;\n\x7d\n"
    Complete u.toList ∧ EndsNoComment body.toList ∧
      ofSheet (u ++ "/*" ++ body ++ "*/" ++ w) = ofSheet (u ++ w) ∧
      ofSheet (u ++ w) = .ok [⟨"--glob", "'src/*'"⟩, ⟨"--a", "red"⟩] := by
  intro u body w
  have complete : Complete u.toList :=
    ⟨":root \x7b\n    --glob: ".toList.map .char ++ .quoted "'src/*'".toList ::
      ";\n    --a: r".toList.map .char, by decide +kernel, by decide +kernel⟩
  have noEnd : EndsNoComment body.toList := by
    unfold EndsNoComment
    decide +kernel
  exact ⟨complete, noEnd, ofSheet_comment complete noEnd (by decide +kernel), by decide +kernel⟩

/-- A statement of another property is passed over exactly if nothing in it looks like the start of
    a declaration. Otherwise the first thing that does is read, and is a declaration or an error. -/
theorem ofSheet_ordinary {text : String} {before after : List (List Char)} {s : List Char}
    (statements : Sheet.statements text.toList = before ++ s :: after) (ordinary : Ordinary s) :
    (Unmarked s → ofSheet text = readStatements (before ++ after)) ∧
    (¬Unmarked s → ∃ skipped found, s = skipped ++ found ∧ ['-', '-'] <+: found ∧
      ¬Marked skipped ∧ ofSheet text = (do
        let earlier ← readStatements before
        let d ← parse (Text.trim found)
        let later ← readStatements after
        pure (earlier ++ d :: later))) := by
  rw [ordinary.unmarked_iff, ofSheet_eq, statements]
  constructor
  · intro none
    rw [readStatements, readStatements, List.filterMap_append, List.filterMap_append,
      List.filterMap_cons_none none]
  · intro some
    obtain ⟨found, read⟩ := Option.ne_none_iff_exists'.1 some
    obtain ⟨skipped, parts, begins, none⟩ := Sheet.fromDashes?_spec read
    refine ⟨skipped, found, parts, begins, (Sheet.fromDashes?_eq_none_iff.1 none).2, ?_⟩
    rw [readStatements_append]
    simp [readStatements, read]

theorem ofSheet_ordinary_passed :
    let text := ".btn--primary \x7b content: '--x'; --gap: var(--y) \x7d\n"
    let s := ".btn--primary \x7b content: '--x'".toList
    let after := [" --gap: var(--y) ".toList, ['\n']]
    Sheet.statements text.toList = s :: after ∧ Ordinary s ∧ Unmarked s ∧
      ofSheet text = readStatements after ∧
      readStatements after = .ok [⟨"--gap", "var(--y)"⟩] := by
  intro text s after
  have statements : Sheet.statements text.toList = [] ++ s :: after := by decide +kernel
  have ordinary : Ordinary s := by decide +kernel
  have unmarked : Unmarked s := ordinary.unmarked_iff.2 (by decide +kernel)
  exact ⟨statements, ordinary, unmarked, (ofSheet_ordinary statements ordinary).1 unmarked,
    by decide +kernel⟩

/-- No statement here declares a custom property. But dashes in a string are read as a declaration,
    and dashes in a list of values are an error. -/
theorem ofSheet_ordinary_read :
    let quoted := "a \x7b\n    content: 'use --b: y';\n\x7d\n"
    let listed := "a \x7b\n    transition: color 1s, --angle 2s;\n\x7d\n"
    ((Sheet.format .css quoted).isOk = true ∧
      (∀ s ∈ Sheet.statements quoted.toList, Ordinary s) ∧
      ofSheet quoted = .ok [⟨"--b", "y'"⟩]) ∧
    (Sheet.format .css listed).isOk = true ∧
      (∀ s ∈ Sheet.statements listed.toList, Ordinary s) ∧
      ofSheet listed = .error (.malformed "--angle 2s" 0) := by
  decide +kernel

end Declaration

end DesignTokens
