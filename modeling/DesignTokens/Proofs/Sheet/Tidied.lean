import DesignTokens.Proofs.Sheet.Entries

namespace DesignTokens.Sheet

open Text (isBlank StartsInked EndsInked)

def unfinished? (body : List Token) : List Entry :=
  if body = [] then [] else [.unfinished (unspaced body)]

def entries (body : List Token) : List Token → List Entry
  | [] => unfinished? body
  | .quoted text :: ts => entries (body ++ [.quoted text]) ts
  | .comment text :: ts =>
    if body = [] then .comment text :: entries [] ts else entries (body ++ [.comment text]) ts
  | .lineComment text :: ts => .lineComment (Text.trim text) :: entries [] ts
  | .char '{' :: ts => .opening (unspaced body) :: entries [] ts
  | .char '}' :: ts => unfinished? body ++ .closing :: entries [] ts
  | .char ';' :: ts => .statement body :: entries [] ts
  | .char c :: ts => entries (if isBlank c then spaced body else body ++ [.char c]) ts

variable {lineComments fresh inked : Bool} {e : Entry} {es : List Entry} {t : Token}
  {body ts : List Token} {s rest : List Char} {c : Char} {total level offset : Nat}
  {more : List Line}

theorem Token.Found.cases (h : t.Found lineComments fresh rest) :
    (t.Inline ∧ (fresh = true → ¬t.IsComment)) ∨
      (∃ text, t = .comment text ∧ fresh = true ∧ t.Whole fun _ => true) ∨
      (∃ text, t = .lineComment text) ∨ (∃ c, t = .char c ∧ isBlank c = true) ∨
      t = .char '{' ∨ t = .char '}' ∨ t = .char ';' := by
  cases t with
  | char c =>
    by_cases special : isBlank c = true ∨ c = '{' ∨ c = '}' ∨ c = ';'
    · rcases special with blank | rfl | rfl | rfl
      · exact .inr (.inr (.inr (.inl ⟨c, rfl, blank⟩)))
      all_goals simp
    · simp only [not_or, Bool.not_eq_true] at special
      exact .inl ⟨⟨h.1, special⟩, fun _ ⟨_, no⟩ => by cases no⟩
  | quoted text => exact .inl ⟨h.1, fun _ ⟨_, no⟩ => by cases no⟩
  | comment text =>
    cases fresh with
    | true => exact .inr (.inl ⟨text, rfl, rfl, h.1⟩)
    | false => exact .inl ⟨h.1, by simp⟩
  | lineComment text => exact .inr (.inr (.inl ⟨text, rfl⟩))

theorem entries_inline (h : t.Inline) (first : body = [] → ¬t.IsComment) :
    entries body (t :: ts) = entries (body ++ [t]) ts := by
  cases t with
  | char c =>
    obtain ⟨-, ink, opening, closing, noEnd⟩ := h
    rw [entries]
    · simp [ink]
    · exact opening
    · exact closing
    · exact noEnd
  | quoted text => rfl
  | comment text => rw [entries, if_neg fun empty => first empty ⟨text, rfl⟩]
  | lineComment text => cases h

theorem entries_blank (hc : isBlank c = true) :
    entries body (.char c :: ts) = entries (spaced body) ts := by
  rw [entries]
  · simp [hc]
  all_goals
    rintro rfl
    cases hc

def Tidied (lineComments : Bool) (level : Nat) (es : List Entry) (more : List Line) : Prop :=
  (∀ e ∈ es, e.Fit lineComments) ∧ Entry.Nested level es ∧ more = Entry.lines level es

namespace Tidied

theorem cons (fit : e.Fit lineComments) (finished : e.after = true)
    (partner : e = .closing → 0 < level) (h : Tidied lineComments (e.levelAfter level) es more) :
    Tidied lineComments level (e :: es) (e.line level :: more) := by
  obtain ⟨others, nested, rfl⟩ := h
  exact ⟨List.forall_mem_cons.2 ⟨fit, others⟩, ⟨partner, by simp [finished], nested⟩, rfl⟩

theorem comment {text : List Char} (whole : (Token.comment text).Whole fun _ => true)
    (h : Tidied lineComments level es more) :
    Tidied lineComments level (.comment text :: es) (line? level text ++ more) := by
  have ink := comment_ink whole
  have line : line? level text = [(Entry.comment text).line level] := by
    rw [line?_of_inked ink.1 ink.2]
    simp [Entry.line, Entry.levelAt, Entry.tokens, Token.text]
  exact line ▸ cons whole rfl (by simp) h

theorem lineComment {text : List Char} (known : lineComments = true)
    (found : ∃ line, text = '/' :: '/' :: line ∧ '\n' ∉ line)
    (h : Tidied lineComments level es more) :
    Tidied lineComments level (.lineComment (Text.trim text) :: es) (line? level text ++ more) := by
  obtain ⟨line, rfl, oneLine⟩ := found
  have starts : StartsInked ('/' :: '/' :: line) := Text.startsInked_cons (by decide)
  have trimmed : Text.trim ('/' :: '/' :: line) = '/' :: '/' :: Text.trimEnd line := by
    rw [Text.trim, Text.trimStart_eq_self starts]
    exact Text.trimEnd_append_cons ['/'] (by decide) line
  have fit : (Entry.lineComment (Text.trim ('/' :: '/' :: line))).Fit lineComments := by
    refine ⟨known, ?_, Text.trimEnd line, trimmed, fun ends => ?_⟩
    · exact (Text.trim_trimmed _).resolve_left (by simp [trimmed]) |>.2
    · exact oneLine ((Text.trimEnd_isPrefix line).subset ends)
  have same : line? level ('/' :: '/' :: line) =
      [(Entry.lineComment (Text.trim ('/' :: '/' :: line))).line level] := by
    simp [line?, trimmed, Entry.line, Entry.levelAt, Entry.tokens, Token.text]
  exact same ▸ cons fit rfl (by simp) h

theorem statement (draft : Draft lineComments inked body)
    (h : Tidied lineComments level es more) :
    Tidied lineComments level (.statement body :: es)
      (line? level (textOf body ++ [';']) ++ more) := by
  have ink := statement_ink draft
  have line : line? level (textOf body ++ [';']) = [(Entry.statement body).line level] := by
    rw [line?_of_inked ink.1 ink.2]
    simp [Entry.line, Entry.levelAt, Entry.tokens, Token.text]
  exact line ▸ cons ⟨inked, draft⟩ rfl (by simp) h

theorem opening (draft : Draft lineComments inked body)
    (h : Tidied lineComments (level + 1) es more) :
    Tidied lineComments level (.opening (unspaced body) :: es)
      (openingLine level (textOf body) :: more) := by
  by_cases empty : body = []
  · subst empty
    exact cons (e := .opening []) (.inl rfl) rfl (by simp) h
  · obtain ⟨whole, trimmed⟩ := draft.unspaced empty
    rw [Entry.line_opening whole trimmed]
    exact cons (.inr whole) rfl (by simp) h

theorem unfinished (draft : Draft lineComments inked body) (next : ∀ e ∈ es.head?, e = .closing)
    (h : Tidied lineComments level es more) :
    Tidied lineComments level (unfinished? body ++ es) (line? level (textOf body) ++ more) := by
  by_cases empty : body = []
  · subst empty
    exact h
  · obtain ⟨whole, trimmed⟩ := draft.unspaced empty
    obtain ⟨others, nested, rfl⟩ := h
    rw [unfinished?, if_neg empty, line?, trimmed, if_neg (whole.startsInked whole.ne_nil).ne_nil]
    exact ⟨List.forall_mem_cons.2 ⟨whole, others⟩, ⟨by simp, fun _ => next, nested⟩, rfl⟩

theorem closing (draft : Draft lineComments inked body) (h : Tidied lineComments level es more) :
    Tidied lineComments (level + 1) (unfinished? body ++ .closing :: es)
      (line? (level + 1) (textOf body) ++ ⟨level, ['}']⟩ :: more) :=
  unfinished draft (by simp) (cons (e := .closing) trivial rfl (fun _ => level.succ_pos) h)

end Tidied

/-- The layout of a text makes the lines of its entries. -/
theorem tidied_of_layout (draft : Draft lineComments inked body) (seam : Seam lineComments body s)
    (scanned : scan lineComments body.isEmpty s = (ts, .closed))
    (laid : layout total .closed level offset (textOf body) ts = .ok more) :
    Tidied lineComments level (entries body ts) more := by
  induction ts generalizing s body inked level offset more with
  | nil =>
    rw [layout] at laid
    split at laid
    · next same =>
      cases laid
      subst same
      have done : Tidied lineComments 0 [] [] := ⟨by simp, rfl, rfl⟩
      simpa [entries] using Tidied.unfinished draft (by simp) done
    · cases laid
  | cons t ts ih =>
    obtain ⟨rest, rfl, found, scanned⟩ := found_of_scan scanned
    have anew (next : t.after body.isEmpty = true) {level offset : Nat} {more : List Line}
        (laid : layout total .closed level offset [] ts = .ok more) :
        Tidied lineComments level (entries [] ts) more :=
      ih .nil Draft.nil.seam_of_space (by rwa [next] at scanned) laid
    rcases found.cases with ⟨inline, first⟩ | ⟨text, rfl, start, whole⟩ | ⟨text, rfl⟩ |
      ⟨c, rfl, blank⟩ | rfl | rfl | rfl
    · -- The token joins the draft.
      have noComment : body = [] → ¬t.IsComment := fun none => first (List.isEmpty_iff.2 none)
      have before : Seam lineComments body t.text := (seam_append inline.ink.1.ne_nil).1 seam
      have filled : (body ++ [t]).isEmpty = false := by simp
      have text : textOf body ++ t.text = textOf (body ++ [t]) := by simp
      rw [inline.after_eq first, ← filled] at scanned
      rw [inline.layout _ fun empty => noComment (draft.textOf_eq_nil.1 empty), text] at laid
      rw [entries_inline inline noComment]
      exact ih (draft.token inline noComment before) (seam_concat.2 (inline.clear found)) scanned
        laid
    · obtain rfl := List.isEmpty_iff.1 start
      rw [textOf_nil, layout, if_pos rfl] at laid
      obtain ⟨below, laid', rfl⟩ := ok_of_emit laid
      rw [entries, if_pos rfl]
      exact .comment whole (anew rfl laid')
    · rw [layout] at laid
      obtain ⟨below, laid', rfl⟩ := ok_of_emit laid
      exact .lineComment found.1.1 found.2.2 (anew rfl laid')
    · -- White space is a single space in the draft, or nothing.
      rw [layout_blank blank, draft.spaced.2] at laid
      rw [Token.after, startsAfter_blank blank, ← isEmpty_spaced] at scanned
      rw [entries_blank blank]
      exact ih draft.spaced.1 draft.spaced.1.seam_of_space scanned laid
    · rw [layout] at laid
      obtain ⟨below, laid', rfl⟩ := ok_of_emit laid
      exact .opening draft (anew rfl laid')
    · cases level with
      | zero => cases laid
      | succ level =>
        rw [layout] at laid
        obtain ⟨below, laid', rfl⟩ := ok_of_emit laid
        rw [List.append_assoc]
        exact .closing draft (anew rfl laid')
    · rw [layout] at laid
      obtain ⟨below, laid', rfl⟩ := ok_of_emit laid
      exact .statement draft (anew rfl laid')

theorem tidy_tidy {out : List Char} (h : tidy lineComments s = .ok out) :
    tidy lineComments out = .ok out := by
  obtain ⟨ts, lines, scanned, laid, rfl⟩ := tidy_eq_ok_iff.1 h
  obtain ⟨fit, nested, rfl⟩ := tidied_of_layout .nil Draft.nil.seam_of_space scanned laid
  rw [← Entry.textOf_spread]
  refine tidy_eq_ok_iff.2 ⟨_, _, Entry.scan_spread fit nested (by simp),
    Entry.lays_spread fit nested rfl (by simp) 0, ?_⟩
  rw [Entry.line?_nil, List.nil_append]
  exact (Entry.textOf_spread _ _).symm

/-- What has been laid out stays as it is. -/
theorem format_format {dialect : Dialect} {text out : String} (sheet : dialect ≠ .json)
    (h : format dialect text = .ok out) : format dialect out = .ok out :=
  (format_eq_ok_iff sheet).2 (tidy_tidy ((format_eq_ok_iff sheet).1 h))

def crumpled : String :=
  "//  note\t\n.a\u00a0 .b,\x7b --x:'a\\'  \x7b\n b' ;/* one\n  two */--y : url(//x)/ /c  \x7d\n" ++
  "@media\x7b  ;c /* in */\u3000d;e\n\x7df //g  \n  h"

def smoothed : String :=
  "//  note\n.a .b, \x7b\n    --x:'a\\'  \x7b\n b' ;\n    /* one\n  two */\n" ++
  "    --y : url(//x)/ /c\n\x7d\n@media \x7b\n    ;\n    c /* in */ d;\n    e\n\x7d\nf //g h\n"

theorem smoothed_format :
    format .scss crumpled = .ok smoothed ∧ format .scss smoothed = .ok smoothed := by
  have laid : format .scss crumpled = .ok smoothed := by decide +kernel
  exact ⟨laid, format_format (by decide) laid⟩

end DesignTokens.Sheet
