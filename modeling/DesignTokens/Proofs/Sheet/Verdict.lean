import DesignTokens.Proofs.Sheet.Lexing
import DesignTokens.Proofs.Sheet.Sealed

namespace DesignTokens.Sheet

/-- A closing brace among the tokens closes nothing. -/
def Stray (ts : List Token) : Prop :=
  ∃ before after, ts = before ++ .char '}' :: after ∧ Balanced before

/-- What is wrong with a text of `total` bytes that is read as the tokens and ends so. -/
inductive Fault (total : Nat) (ts : List Token) (ending : Ending) : LayoutError → Prop
  | stray {before after : List Token} (split : ts = before ++ .char '}' :: after)
    (balanced : Balanced before) :
    Fault total ts ending (.unbalanced (Text.byteSize (textOf before)))
  | openQuote {left : List Char} (noStray : ¬Stray ts) (opened : ending = .openQuote left) :
    Fault total ts ending (.unterminatedString (Text.byteSize (textOf ts)))
  | openComment {left : List Char} (noStray : ¬Stray ts) (opened : ending = .openComment left) :
    Fault total ts ending (.unterminatedComment (Text.byteSize (textOf ts)))
  | openBrace (noStray : ¬Stray ts) (closed : ending = .closed) (opened : ¬Balanced ts) :
    Fault total ts ending (.unbalanced total)

/-- The tokens close the `level` braces that are open before them, and all of their own. -/
def Closes (level : Nat) : List Token → Prop
  | [] => level = 0
  | t :: ts =>
    if t = .char '{' then Closes (level + 1) ts
    else if t = .char '}' then 0 < level ∧ Closes (level - 1) ts
    else Closes level ts

inductive Unwinds : Nat → List Token → Prop
  | last {ts : List Token} (h : Balanced ts) : Unwinds 0 ts
  | brace {level : Nat} {inner rest : List Token} (h : Balanced inner) (h' : Unwinds level rest) :
    Unwinds (level + 1) (inner ++ .char '}' :: rest)

variable {total level offset : Nat} {t : Token} {ts us before after : List Token}
  {ending : Ending} {pending : List Char} {cause cause' : LayoutError}

theorem Unwinds.other (opening : t ≠ .char '{') (closing : t ≠ .char '}') (h : Unwinds level ts) :
    Unwinds level (t :: ts) := by
  cases h with
  | last h => exact .last (.other opening closing h)
  | brace h h' => exact .brace (.other opening closing h) h'

theorem Unwinds.opening (h : Unwinds (level + 1) ts) : Unwinds level (.char '{' :: ts) := by
  cases h with
  | brace inner rest =>
    cases rest with
    | last outer => exact .last (.block inner outer)
    | @brace level outer rest balanced h' =>
      have joined := Unwinds.brace (.block inner balanced) h'
      simpa using joined

theorem Closes.unwinds (h : Closes level ts) : Unwinds level ts := by
  induction ts generalizing level with
  | nil =>
    obtain rfl : level = 0 := h
    exact .last .nil
  | cons t ts ih =>
    rw [Closes] at h
    split at h
    · next opening => exact opening ▸ (ih h).opening
    · next opening =>
      split at h
      · next closing =>
        obtain ⟨positive, h⟩ := h
        obtain ⟨level, rfl⟩ := Nat.exists_eq_succ_of_ne_zero (Nat.ne_of_gt positive)
        exact closing ▸ .brace .nil (ih h)
      · next closing => exact (ih h).other opening closing

theorem Balanced.closes (h : Balanced ts) (rest : Closes level us) : Closes level (ts ++ us) := by
  induction h generalizing level us with
  | nil => exact rest
  | other opening closing _ ih =>
    rw [List.cons_append, Closes, if_neg opening, if_neg closing]
    exact ih rest
  | block _ _ inner outer =>
    rw [List.cons_append, List.append_assoc, List.cons_append, Closes, if_pos rfl]
    apply inner
    rw [Closes, if_neg (by decide), if_pos rfl]
    exact ⟨level.succ_pos, outer rest⟩

theorem closes_zero_iff : Closes 0 ts ↔ Balanced ts := by
  constructor
  · intro h
    cases h.unwinds with
    | last balanced => exact balanced
  · intro h
    have none : Closes 0 [] := rfl
    have closed := h.closes none
    rwa [List.append_nil] at closed

theorem Closes.not_closes_append (h : Closes level before) :
    ¬Closes level (before ++ .char '}' :: after) := by
  induction before generalizing level with
  | nil =>
    obtain rfl : level = 0 := h
    intro closes
    rw [List.nil_append, Closes, if_neg (by decide), if_pos rfl] at closes
    exact absurd closes.1 (Nat.lt_irrefl 0)
  | cons t before ih =>
    rw [Closes] at h
    rw [List.cons_append, Closes]
    split at h
    · next opening =>
      rw [if_pos opening]
      exact ih h
    · next opening =>
      rw [if_neg opening]
      split at h
      · next closing =>
        rw [if_pos closing]
        exact fun closes => ih h.2 closes.2
      · next closing =>
        rw [if_neg closing]
        exact ih h

theorem Balanced.not_stray (h : Balanced ts) : ¬Stray ts := by
  rintro ⟨before, after, rfl, balanced⟩
  exact (closes_zero_iff.2 balanced).not_closes_append (closes_zero_iff.2 h)

theorem stray_unique {before' after' : List Token} (h : Balanced before) (h' : Balanced before')
    (same : before ++ .char '}' :: after = before' ++ .char '}' :: after') : before = before' := by
  rcases List.append_eq_append_iff.1 same with ⟨middle, rfl, rest⟩ | ⟨middle, rfl, rest⟩
  · cases middle with
    | nil => exact (List.append_nil before).symm
    | cons t middle =>
      obtain ⟨rfl, -⟩ := List.cons.inj rest
      exact absurd ⟨before, middle, rfl, h⟩ h'.not_stray
  · cases middle with
    | nil => exact List.append_nil before'
    | cons t middle =>
      obtain ⟨rfl, -⟩ := List.cons.inj rest
      exact absurd ⟨before', middle, rfl, h'⟩ h.not_stray

theorem emit_nil (rest : Except LayoutError (List Line)) : emit [] rest = rest := by
  cases rest <;> rfl

theorem error_of_emit {front : List Line} {rest : Except LayoutError (List Line)}
    (h : emit front rest = .error cause) : rest = .error cause := by
  cases rest with
  | error e => exact h
  | ok lines => cases h

theorem layout_other (opening : t ≠ .char '{') (closing : t ≠ .char '}') :
    ∃ front pending', layout total ending level offset pending (t :: ts) =
      emit front (layout total ending level (offset + Text.byteSize t.text) pending' ts) := by
  cases t with
  | char c =>
    by_cases finish : c = ';'
    · subst finish
      exact ⟨_, _, by rw [layout]⟩
    · refine ⟨[], if Text.isBlank c then addBlank pending else pending ++ [c], ?_⟩
      rw [emit_nil, layout]
      · exact fun same => opening (same ▸ rfl)
      · exact fun same => closing (same ▸ rfl)
      · exact finish
  | quoted text =>
    refine ⟨[], pending ++ text, ?_⟩
    rw [emit_nil, layout]
  | comment text =>
    by_cases start : pending = []
    · exact ⟨_, _, by rw [layout, if_pos start]⟩
    · refine ⟨[], pending ++ text, ?_⟩
      rw [emit_nil, layout, if_neg start]
  | lineComment text => exact ⟨_, _, by rw [layout]⟩

/-- The layout stops at a brace that closes nothing. Any other token changes the number of open
    braces as it should, and the layout goes on behind it. -/
theorem layout_cons (total : Nat) (ending : Ending) (level offset : Nat) (pending : List Char)
    (t : Token) (ts : List Token) :
    (t = .char '}' ∧ level = 0 ∧
        layout total ending level offset pending (t :: ts) = .error (.unbalanced offset)) ∨
      ∃ next, (∀ us, Closes level (t :: us) ↔ Closes next us) ∧ ∃ front pending',
        layout total ending level offset pending (t :: ts) =
          emit front (layout total ending next (offset + Text.byteSize t.text) pending' ts) := by
  by_cases opening : t = .char '{'
  · subst opening
    exact .inr ⟨level + 1, fun us => by simp [Closes], _, _, by rw [layout]⟩
  by_cases closing : t = .char '}'
  · subst closing
    cases level with
    | zero => exact .inl ⟨rfl, rfl, by rw [layout]⟩
    | succ level => exact .inr ⟨level, fun us => by simp [Closes], _, _, by rw [layout]⟩
  · refine .inr ⟨level, fun us => ?_, layout_other opening closing⟩
    rw [Closes, if_neg opening, if_neg closing]

theorem closes_of_layout {lines : List Line}
    (h : layout total ending level offset pending ts = .ok lines) : Closes level ts := by
  induction ts generalizing level offset pending lines with
  | nil =>
    obtain rfl := closed_of_layout h
    rw [layout] at h
    split at h
    · assumption
    · cases h
  | cons t ts ih =>
    rcases layout_cons total ending level offset pending t ts with
      ⟨-, -, stops⟩ | ⟨next, step, front, pending', same⟩
    · rw [stops] at h
      cases h
    · rw [same] at h
      obtain ⟨more, below, -⟩ := ok_of_emit h
      exact (step ts).2 (ih below)

theorem layout_stray (closes : Closes level before) :
    layout total ending level offset pending (before ++ .char '}' :: after) =
      .error (.unbalanced (offset + Text.byteSize (textOf before))) := by
  induction before generalizing level offset pending with
  | nil =>
    obtain rfl : level = 0 := closes
    rw [List.nil_append, layout]
    rfl
  | cons t before ih =>
    rcases layout_cons total ending level offset pending t (before ++ .char '}' :: after) with
      ⟨rfl, rfl, -⟩ | ⟨next, step, front, pending', same⟩
    · rw [Closes, if_neg (by decide), if_pos rfl] at closes
      exact absurd closes.1 (Nat.lt_irrefl 0)
    · rw [List.cons_append, same, ih ((step before).1 closes), textOf_cons, Text.byteSize_append,
        Nat.add_assoc]
      rfl

def Ending.fault (total : Nat) : Ending → LayoutError
  | openQuote left => .unterminatedString (total - Text.byteSize left)
  | openComment left => .unterminatedComment (total - Text.byteSize left)
  | closed => .unbalanced total

theorem layout_ending (noStray : ∀ before after, ts = before ++ .char '}' :: after →
      ¬Closes level before)
    (h : layout total ending level offset pending ts = .error cause) :
    cause = ending.fault total := by
  induction ts generalizing level offset pending with
  | nil =>
    cases ending with
    | openQuote left | openComment left =>
      cases h
      rfl
    | closed =>
      rw [layout] at h
      split at h
      · cases h
      · cases h
        rfl
  | cons t ts ih =>
    rcases layout_cons total ending level offset pending t ts with
      ⟨rfl, rfl, -⟩ | ⟨next, step, front, pending', same⟩
    · exact absurd rfl (noStray [] ts rfl)
    · rw [same] at h
      refine ih (fun before after split closes => ?_) (error_of_emit h)
      exact noStray (t :: before) after (congrArg (t :: ·) split) ((step before).2 closes)

namespace Fault

theorem unique (h : Fault total ts ending cause) (h' : Fault total ts ending cause') :
    cause = cause' := by
  cases h with
  | stray split balanced =>
    cases h' with
    | stray split' balanced' => rw [stray_unique balanced balanced' (split.symm.trans split')]
    | openQuote noStray | openComment noStray | openBrace noStray =>
      exact absurd ⟨_, _, split, balanced⟩ noStray
  | openQuote noStray opened =>
    cases h' with
    | stray split balanced => exact absurd ⟨_, _, split, balanced⟩ noStray
    | openQuote => rfl
    | openComment _ other | openBrace _ other => cases opened.symm.trans other
  | openComment noStray opened =>
    cases h' with
    | stray split balanced => exact absurd ⟨_, _, split, balanced⟩ noStray
    | openComment => rfl
    | openQuote _ other | openBrace _ other => cases opened.symm.trans other
  | openBrace noStray closed =>
    cases h' with
    | stray split balanced => exact absurd ⟨_, _, split, balanced⟩ noStray
    | openBrace => rfl
    | openQuote _ other | openComment _ other => cases closed.symm.trans other

theorem not_accepted (h : Fault total ts ending cause) : ¬(ending = .closed ∧ Balanced ts) := by
  rintro ⟨closed, balanced⟩
  cases h with
  | stray split before => exact balanced.not_stray ⟨_, _, split, before⟩
  | openQuote _ opened | openComment _ opened => cases closed.symm.trans opened
  | openBrace _ _ opened => exact opened balanced

end Fault

variable {lineComments : Bool} {s : List Char}

theorem tidy_eq_error_iff (scanned : scan lineComments true s = (ts, ending)) :
    tidy lineComments s = .error cause ↔
      layout (Text.byteSize s) ending 0 0 [] ts = .error cause := by
  rw [tidy, scanned]
  dsimp only
  cases layout (Text.byteSize s) ending 0 0 [] ts with
  | error e => simp [Except.map]
  | ok lines => simp [Except.map]

namespace Lexes

variable (lexes : Lexes lineComments true s ts ending)

include lexes

theorem tidy_isOk_iff : (∃ out, tidy lineComments s = .ok out) ↔
    ending = .closed ∧ Balanced ts := by
  constructor
  · rintro ⟨out, accepted⟩
    obtain ⟨ts', lines, scanned, laid, -⟩ := tidy_eq_ok_iff.1 accepted
    rw [lexes.scan_eq] at scanned
    cases scanned
    exact ⟨rfl, closes_zero_iff.1 (closes_of_layout laid)⟩
  · rintro ⟨rfl, balanced⟩
    obtain ⟨lines, laid⟩ := balanced.accepted (accepted_nil (Text.byteSize s)) 0 []
    rw [List.append_nil] at laid
    exact ⟨_, tidy_eq_ok_iff.2 ⟨ts, lines, lexes.scan_eq, laid, rfl⟩⟩

theorem fault_of_tidy (h : tidy lineComments s = .error cause) :
    Fault (Text.byteSize s) ts ending cause := by
  have laid := (tidy_eq_error_iff lexes.scan_eq).1 h
  by_cases stray : Stray ts
  · obtain ⟨before, after, rfl, balanced⟩ := stray
    rw [layout_stray (closes_zero_iff.2 balanced), Nat.zero_add] at laid
    cases laid
    exact .stray rfl balanced
  · have noStray (before after) (split : ts = before ++ .char '}' :: after) : ¬Closes 0 before :=
      fun closes => stray ⟨before, after, split, closes_zero_iff.1 closes⟩
    have size := congrArg Text.byteSize lexes.text_eq
    rw [Text.byteSize_append] at size
    rw [layout_ending noStray laid]
    cases ending with
    | openQuote left =>
      rw [Ending.fault, size, Ending.left, Nat.add_sub_cancel]
      exact .openQuote stray rfl
    | openComment left =>
      rw [Ending.fault, size, Ending.left, Nat.add_sub_cancel]
      exact .openComment stray rfl
    | closed =>
      refine .openBrace stray rfl fun balanced => ?_
      obtain ⟨out, accepted⟩ := lexes.tidy_isOk_iff.2 ⟨rfl, balanced⟩
      rw [accepted] at h
      cases h

theorem tidy_eq_error_iff_fault :
    tidy lineComments s = .error cause ↔ Fault (Text.byteSize s) ts ending cause := by
  refine ⟨lexes.fault_of_tidy, fun fault => ?_⟩
  cases laid : tidy lineComments s with
  | ok out => exact absurd (lexes.tidy_isOk_iff.1 ⟨out, laid⟩) fault.not_accepted
  | error e => rw [(lexes.fault_of_tidy laid).unique fault]

end Lexes

theorem format_eq_error_iff {dialect : Dialect} {text : String} {e : FormatError}
    (sheet : dialect ≠ .json) : format dialect text = .error e ↔
      ∃ cause, e = .layout cause ∧ tidy (dialect = .scss) text.toList = .error cause := by
  cases dialect with
  | json => contradiction
  | css | scss =>
    rw [format]
    cases tidy _ text.toList with
    | error cause => simp [eq_comm]
    | ok laid => simp

/-- Every text has one reading. It can be laid out if and only if that leaves no string and no
    comment open and its braces are balanced, and otherwise the error is its fault. -/
theorem format_verdict {dialect : Dialect} (sheet : dialect ≠ .json) (text : String) :
    ∃ ts ending,
      (∀ ts' ending', Lexes (dialect = .scss) true text.toList ts' ending' ↔
        ts' = ts ∧ ending' = ending) ∧
      ((∃ out, format dialect text = .ok out) ↔ ending = .closed ∧ Balanced ts) ∧
      ∀ e, format dialect text = .error e ↔
        ∃ cause, e = .layout cause ∧ Fault text.utf8ByteSize ts ending cause := by
  obtain ⟨ts, ending, scanned⟩ : ∃ ts ending,
      scan (dialect = .scss) true text.toList = (ts, ending) := ⟨_, _, rfl⟩
  have lexes := lexes_of_scan scanned
  refine ⟨ts, ending, fun ts' ending' => ?_, ?_, fun e => ?_⟩
  · rw [← scan_eq_iff, scanned, Prod.mk.injEq, eq_comm, @eq_comm _ ending]
  · rw [← lexes.tidy_isOk_iff]
    constructor
    · rintro ⟨out, accepted⟩
      exact ⟨out.toList, (format_eq_ok_iff sheet).1 accepted⟩
    · rintro ⟨out, accepted⟩
      exact ⟨.ofList out, (format_eq_ok_iff sheet).2 (by rwa [String.toList_ofList])⟩
  · rw [format_eq_error_iff sheet, ← Text.byteSize_toList]
    simp only [lexes.tidy_eq_error_iff_fault]

def unpaired : String := "/* \x7d */é: '\x7d'; // \x7b\n\x7d 'b\\'"

theorem unpaired_verdict : Dialect.scss ≠ .json ∧ ∃ ts ending,
    Lexes true true unpaired.toList ts ending ∧ ¬(∃ out, format .scss unpaired = .ok out) ∧
      Fault unpaired.utf8ByteSize ts ending (.unbalanced 21) ∧
      format .css unpaired = .error (.layout (.unterminatedString 23)) := by
  have scss : Dialect.scss ≠ .json := by decide
  obtain ⟨ts, ending, reading, accepted, refused⟩ := format_verdict scss unpaired
  have stray : format .scss unpaired = .error (.layout (.unbalanced 21)) := by decide +kernel
  have unended : format .css unpaired = .error (.layout (.unterminatedString 23)) := by
    decide +kernel
  obtain ⟨cause, same, fault⟩ := (refused _).1 stray
  cases same
  refine ⟨scss, ts, ending, (reading ts ending).2 ⟨rfl, rfl⟩, ?_, fault, unended⟩
  exact fun ok => fault.not_accepted (accepted.1 ok)

end DesignTokens.Sheet
