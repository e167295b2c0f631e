import DesignTokens.Sheet.Statement
import Mathlib.Data.List.Chain
import Mathlib.Data.List.TakeWhile

namespace DesignTokens.Sheet

def textOf (tokens : List Token) : List Char := tokens.flatMap Token.text

@[simp] theorem textOf_nil : textOf [] = [] := rfl

@[simp] theorem textOf_cons (t : Token) (ts : List Token) :
    textOf (t :: ts) = t.text ++ textOf ts := rfl

@[simp] theorem textOf_append (ts us : List Token) :
    textOf (ts ++ us) = textOf ts ++ textOf us := by simp [textOf]

@[simp] theorem textOf_chars (s : List Char) : textOf (s.map .char) = s := by
  induction s with
  | nil => rfl
  | cons c s ih => simp [Token.text, ih]

def Token.Whole (escapable : Char → Bool) : Token → Prop
  | char c => isQuote c = false
  | quoted text =>
    ∃ quote body, text = quote :: body ∧ isQuote quote = true ∧
      closeQuote escapable quote body = some (body, [])
  | comment text => ∃ body, text = '/' :: '*' :: body ∧ closeComment body = some (body, [])
  | lineComment _ => False

def Apart (t u : Token) : Prop := t = .char '/' → u ≠ .char '*'

theorem apart_of_ne {t u : Token} (h : t ≠ .char '/') : Apart t u := fun slash => absurd slash h

def Faithful (escapable : Char → Bool) (tokens : List Token) : Prop :=
  (∀ t ∈ tokens, t.Whole escapable) ∧ tokens.IsChain Apart

instance (escapable : Char → Bool) : (t : Token) → Decidable (t.Whole escapable)
  | .char c => inferInstanceAs (Decidable (isQuote c = false))
  | .quoted [] => isFalse nofun
  | .quoted (quote :: body) =>
    decidable_of_iff (isQuote quote = true ∧ closeQuote escapable quote body = some (body, []))
      ⟨fun h => ⟨quote, body, rfl, h⟩, fun ⟨_, _, same, h⟩ => by cases same; exact h⟩
  | .comment text =>
    decidable_of_iff (text.take 2 = ['/', '*'] ∧
        closeComment (text.drop 2) = some (text.drop 2, [])) <| by
      constructor
      · rintro ⟨opens, closed⟩
        exact ⟨text.drop 2, by rw [← List.take_append_drop 2 text, opens]; rfl, closed⟩
      · rintro ⟨body, rfl, closed⟩
        exact ⟨rfl, closed⟩
  | .lineComment _ => isFalse id

instance (t u : Token) : Decidable (Apart t u) :=
  inferInstanceAs (Decidable (t = .char '/' → u ≠ .char '*'))

instance (escapable : Char → Bool) (tokens : List Token) : Decidable (Faithful escapable tokens) :=
  inferInstanceAs (Decidable ((∀ t ∈ tokens, t.Whole escapable) ∧ tokens.IsChain Apart))

inductive Calm : Bool → List Token → Bool → Prop
  | done {fresh : Bool} : Calm fresh [] fresh
  | char {fresh after : Bool} {c : Char} {ts : List Token} (calm : ¬(fresh = true ∧ c = '/'))
    (rest : Calm (startsAfter fresh c) ts after) : Calm fresh (.char c :: ts) after
  | quoted {fresh after : Bool} {text : List Char} {ts : List Token} (rest : Calm false ts after) :
    Calm fresh (.quoted text :: ts) after
  | comment {fresh after : Bool} {text : List Char} {ts : List Token}
    (rest : Calm fresh ts after) : Calm fresh (.comment text :: ts) after

variable {escapable : Char → Bool} {t u : Token} {ts us : List Token}

theorem Calm.append {fresh middle after : Bool} (h : Calm fresh ts middle)
    (h' : Calm middle us after) : Calm fresh (ts ++ us) after := by
  induction h with
  | done => exact h'
  | char calm _ ih => exact .char calm (ih h')
  | quoted _ ih => exact .quoted (ih h')
  | comment _ ih => exact .comment (ih h')

namespace Faithful

theorem nil : Faithful escapable [] := ⟨by simp, .nil⟩

theorem head (h : Faithful escapable (t :: ts)) : t.Whole escapable := h.1 t (by simp)

theorem tail (h : Faithful escapable (t :: ts)) : Faithful escapable ts :=
  ⟨fun u hu => h.1 u (List.mem_cons_of_mem t hu), (List.isChain_cons.1 h.2).2⟩

theorem cons (ht : t.Whole escapable) (apart : ∀ u ∈ ts.head?, Apart t u)
    (hts : Faithful escapable ts) : Faithful escapable (t :: ts) := by
  refine ⟨?_, List.isChain_cons.2 ⟨apart, hts.2⟩⟩
  intro u hu
  rcases List.mem_cons.1 hu with rfl | hu
  · exact ht
  · exact hts.1 u hu

theorem append (hts : Faithful escapable ts) (hus : Faithful escapable us)
    (apart : ts.getLast? ≠ some (.char '/')) : Faithful escapable (ts ++ us) := by
  constructor
  · intro t ht
    rcases List.mem_append.1 ht with ht | ht
    · exact hts.1 t ht
    · exact hus.1 t ht
  · rw [List.isChain_append]
    refine ⟨hts.2, hus.2, ?_⟩
    rintro t ht u -
    apply apart_of_ne
    rintro rfl
    exact apart ht

theorem of_no_star (whole : ∀ t ∈ ts, t.Whole escapable) (star : .char '*' ∉ ts) :
    Faithful escapable ts := by
  induction ts with
  | nil => exact nil
  | cons t ts ih =>
    refine cons (whole t (by simp)) ?_ (ih ?_ ?_)
    · intro u hu _ isStar
      subst isStar
      exact star (List.mem_cons_of_mem t (List.mem_of_head? hu))
    · exact fun u hu => whole u (List.mem_cons_of_mem t hu)
    · exact fun h => star (List.mem_cons_of_mem t h)

end Faithful

theorem closeQuote_append_right {quote : Char} (hq : isQuote quote = true)
    {s body rest : List Char} (h : closeQuote escapable quote s = some (body, rest))
    (more : List Char) : closeQuote escapable quote (s ++ more) = some (body, rest ++ more) := by
  fun_induction closeQuote escapable quote s generalizing body with
  | case1 => cases h
  | case2 c s hc ih =>
    obtain ⟨⟨b, r⟩, hb, hp⟩ := Option.map_eq_some_iff.1 h
    cases hp
    simp [closeQuote, hc, ih hb]
  | case3 => cases h
  | case4 s other =>
    cases h
    -- A backslash that ends the text must not come to protect what is put behind it.
    have noEscape : quote ≠ '\\' := by
      rintro rfl
      cases hq
    unfold closeQuote
    split <;> simp_all
  | case5 => cases h
  | case6 c s other noQuote noEscape ih =>
    obtain ⟨⟨b, r⟩, hb, hp⟩ := Option.map_eq_some_iff.1 h
    cases hp
    unfold closeQuote
    split <;> simp_all

theorem closeComment_append_right {s body rest : List Char}
    (h : closeComment s = some (body, rest)) (more : List Char) :
    closeComment (s ++ more) = some (body, rest ++ more) := by
  fun_induction closeComment s generalizing body with
  | case1 => cases h
  | case2 => cases h; rfl
  | case3 c s other ih =>
    obtain ⟨⟨b, r⟩, hb, hp⟩ := Option.map_eq_some_iff.1 h
    cases hp
    have ends : s ≠ [] := by
      rintro rfl
      cases hb
    obtain ⟨d, s, rfl⟩ := List.exists_cons_of_ne_nil ends
    -- The end of the comment is inside the text, so a star at its end does not begin it.
    have noEnd : ¬(c = '*' ∧ d = '/') := fun e => other s e.1 (by rw [e.2])
    unfold closeComment
    split <;> simp_all

theorem closeQuote_self {quote : Char} {s body rest : List Char}
    (h : closeQuote escapable quote s = some (body, rest)) :
    closeQuote escapable quote body = some (body, []) := by
  fun_induction closeQuote escapable quote s generalizing body with
  | case1 => cases h
  | case2 c s hc ih =>
    obtain ⟨⟨b, r⟩, hb, hp⟩ := Option.map_eq_some_iff.1 h
    cases hp
    simp [closeQuote, hc, ih hb]
  | case3 => cases h
  | case4 s other =>
    cases h
    simp [closeQuote]
  | case5 => cases h
  | case6 c s other noQuote noEscape ih =>
    obtain ⟨⟨b, r⟩, hb, hp⟩ := Option.map_eq_some_iff.1 h
    cases hp
    rw [closeQuote, if_neg noQuote, if_neg noEscape, ih hb]
    · rfl
    · exact fun _ _ e => absurd e noEscape

theorem closeComment_self {s body rest : List Char} (h : closeComment s = some (body, rest)) :
    closeComment body = some (body, []) := by
  fun_induction closeComment s generalizing body with
  | case1 => cases h
  | case2 =>
    cases h
    rfl
  | case3 c s other ih =>
    obtain ⟨⟨b, r⟩, hb, hp⟩ := Option.map_eq_some_iff.1 h
    cases hp
    rw [closeComment, ih hb]
    · rfl
    · rintro t rfl rfl
      exact other _ rfl (by rw [closeComment_append hb]; rfl)

theorem closeQuote_mono {weak strong : Char → Bool} (h : ∀ c, weak c = true → strong c = true)
    {quote : Char} {s : List Char} {split : List Char × List Char}
    (hs : closeQuote weak quote s = some split) : closeQuote strong quote s = some split := by
  fun_induction closeQuote weak quote s generalizing split with
  | case1 => cases hs
  | case2 c s hc ih =>
    obtain ⟨p, hp, rfl⟩ := Option.map_eq_some_iff.1 hs
    simp [closeQuote, h c hc, ih hp]
  | case3 => cases hs
  | case4 s other =>
    cases hs
    unfold closeQuote
    split <;> simp_all
  | case5 => cases hs
  | case6 c s other noQuote noEscape ih =>
    obtain ⟨p, hp, rfl⟩ := Option.map_eq_some_iff.1 hs
    unfold closeQuote
    split <;> simp_all

theorem Token.Whole.mono {weak strong : Char → Bool}
    (h : ∀ c, weak c = true → strong c = true) (whole : t.Whole weak) : t.Whole strong := by
  cases t with
  | char c => exact whole
  | quoted text =>
    obtain ⟨quote, body, rfl, hq, closed⟩ := whole
    exact ⟨quote, body, rfl, hq, closeQuote_mono h closed⟩
  | comment text => exact whole
  | lineComment text => exact whole

theorem Faithful.mono {weak strong : Char → Bool} (h : ∀ c, weak c = true → strong c = true)
    (faithful : Faithful weak ts) : Faithful strong ts :=
  ⟨fun t ht => (faithful.1 t ht).mono h, faithful.2⟩

theorem closeQuote_plain {quote : Char} {s : List Char}
    (h : ∀ c ∈ s, c ≠ quote ∧ c ≠ '\\') :
    closeQuote escapable quote (s ++ [quote]) = some (s ++ [quote], []) := by
  induction s with
  | nil =>
    unfold closeQuote
    split <;> simp_all
  | cons c s ih =>
    have hc := h c (by simp)
    have hs := ih fun d hd => h d (List.mem_cons_of_mem c hd)
    rw [List.cons_append, closeQuote]
    · simp [hc.1, hc.2, hs]
    · intro _ _ e
      exact absurd e hc.2

def Token.Clear (lineComments fresh : Bool) (t : Token) (rest : List Char) : Prop :=
  t = .char '/' →
    rest.head? ≠ some '*' ∧ (lineComments = true → fresh = true → rest.head? ≠ some '/')

def Token.Found (lineComments fresh : Bool) (rest : List Char) : Token → Prop
  | lineComment text =>
    (lineComments = true ∧ fresh = true) ∧ (∀ c ∈ rest.head?, c = '\n') ∧
      ∃ line, text = '/' :: '/' :: line ∧ '\n' ∉ line
  | t => t.Whole (fun _ => true) ∧ t.Clear lineComments fresh rest

def Token.after (fresh : Bool) : Token → Bool
  | char c => startsAfter fresh c
  | quoted _ => false
  | comment _ => fresh
  | lineComment _ => true

variable {lineComments fresh : Bool} {s rest : List Char} {ending : Ending}

theorem Token.Found.scan (h : t.Found lineComments fresh rest) :
    Sheet.scan lineComments fresh (t.text ++ rest) =
      (t :: (Sheet.scan lineComments (t.after fresh) rest).1,
        (Sheet.scan lineComments (t.after fresh) rest).2) := by
  cases t with
  | char c =>
    obtain ⟨noQuote, clear⟩ := h
    have noQuote : isQuote c = false := noQuote
    have noComment : ¬(c = '/' ∧ rest.head? = some '*') := by
      rintro ⟨rfl, star⟩
      exact (clear rfl).1 star
    have noLine : ¬(lineComments = true ∧ fresh = true ∧ c = '/' ∧ rest.head? = some '/') := by
      rintro ⟨known, starts, rfl, slash⟩
      exact (clear rfl).2 known starts slash
    rw [Token.text, List.singleton_append, Sheet.scan]
    simp only [noQuote, Bool.false_eq_true, if_false, noComment, noLine, Token.after]
  | quoted text =>
    obtain ⟨⟨quote, body, rfl, hq, closed⟩, -⟩ := h
    have read := closeQuote_append_right hq closed rest
    rw [Token.text, List.cons_append, Sheet.scan, if_pos hq]
    split
    · next none => simp [read] at none
    · next found =>
      rw [read] at found
      cases found
      rfl
  | comment text =>
    obtain ⟨⟨body, rfl, closed⟩, -⟩ := h
    have read := closeComment_append_right closed rest
    rw [Token.text, List.cons_append, List.cons_append, Sheet.scan, if_neg (by decide),
      if_pos ⟨rfl, rfl⟩]
    split
    · next none => simp [read] at none
    · next found =>
      rw [List.tail_cons, read] at found
      cases found
      rfl
  | lineComment text =>
    obtain ⟨⟨rfl, rfl⟩, ends, line, rfl, oneLine⟩ := h
    have split : ∀ c ∈ '/' :: line, decide (c ≠ '\n') = true := by
      intro c hc
      rcases List.mem_cons.1 hc with rfl | hc
      · decide
      · exact decide_eq_true fun same => oneLine (same ▸ hc)
    have stop : rest.takeWhile (· ≠ '\n') = [] ∧ rest.dropWhile (· ≠ '\n') = rest := by
      cases rest with
      | nil => exact ⟨rfl, rfl⟩
      | cons c rest =>
        obtain rfl := ends c rfl
        exact ⟨rfl, rfl⟩
    rw [Token.text, List.cons_append, Sheet.scan, if_neg (by decide), if_neg (by simp),
      if_pos ⟨rfl, rfl, rfl, rfl⟩]
    simp only [List.takeWhile_append_of_pos split, List.dropWhile_append_of_pos split, stop,
      List.append_nil]
    rfl

theorem found_of_scan (h : scan lineComments fresh s = (t :: ts, ending)) :
    ∃ rest, s = t.text ++ rest ∧ t.Found lineComments fresh rest ∧
      scan lineComments (t.after fresh) rest = (ts, ending) := by
  unfold scan at h
  split at h
  · cases h
  · next c rest =>
    split at h
    · next hq =>
      split at h
      · cases h
      · next body after closed =>
        cases h
        refine ⟨after, ?_, ⟨⟨c, body, rfl, hq, closeQuote_self closed⟩, by simp [Token.Clear]⟩, rfl⟩
        rw [Token.text, List.cons_append, closeQuote_append closed]
    · next noQuote =>
      split at h
      · next opens =>
        split at h
        · cases h
        · next body after closed =>
          cases h
          refine ⟨after, ?_, ⟨⟨body, rfl, closeComment_self closed⟩, by simp [Token.Clear]⟩, rfl⟩
          obtain ⟨rfl, star⟩ := opens
          obtain ⟨rest, rfl⟩ := List.head?_eq_some_iff.1 star
          rw [Token.text, List.cons_append, List.cons_append, ← closeComment_append closed,
            List.tail_cons]
      · next noComment =>
        split at h
        · next line =>
          cases h
          obtain ⟨known, starts, rfl, slash⟩ := line
          obtain ⟨rest, rfl⟩ := List.head?_eq_some_iff.1 slash
          refine ⟨('/' :: rest).dropWhile (· ≠ '\n'), ?_, ⟨⟨known, starts⟩, ?_, ?_⟩, rfl⟩
          · rw [Token.text, List.cons_append, List.takeWhile_append_dropWhile]
          · intro c hc
            have stop := List.head?_dropWhile_not (· ≠ '\n') ('/' :: rest)
            rw [Option.mem_def.1 hc] at stop
            simpa using stop
          · refine ⟨rest.takeWhile (· ≠ '\n'), rfl, fun ends => ?_⟩
            simpa using List.mem_takeWhile_imp ends
        · next noLine =>
          cases h
          refine ⟨rest, rfl, ⟨by simpa [Token.Whole] using noQuote, ?_⟩, rfl⟩
          intro slash
          cases slash
          exact ⟨fun star => noComment ⟨rfl, star⟩,
            fun known starts slash => noLine ⟨known, starts, rfl, slash⟩⟩

theorem eq_nil_of_scan (h : scan lineComments fresh s = ([], .closed)) : s = [] := by
  unfold scan at h
  split at h
  · rfl
  · exfalso
    split at h
    · split at h <;> cases h
    · split at h
      · split at h <;> cases h
      · split at h <;> cases h

theorem head?_textOf_ne_star (whole : ∀ t ∈ ts, t.Whole escapable)
    (apart : ∀ u ∈ ts.head?, u ≠ .char '*') : (textOf ts).head? ≠ some '*' := by
  cases ts with
  | nil => simp
  | cons t ts =>
    have ht := whole t (by simp)
    have notStar := apart t (by simp)
    cases t with
    | char c => simpa [Token.text] using notStar
    | quoted text =>
      obtain ⟨quote, body, rfl, hq, -⟩ := ht
      intro isStar
      simp only [textOf_cons, Token.text, List.cons_append, List.head?_cons,
        Option.some.injEq] at isStar
      subst isStar
      cases hq
    | comment text =>
      obtain ⟨body, rfl, -⟩ := ht
      simp [Token.text]
    | lineComment text => cases ht

namespace Faithful

theorem opens_no_comment {c : Char} (h : Faithful escapable (.char c :: ts)) :
    ¬(c = '/' ∧ (textOf ts).head? = some '*') := by
  rintro ⟨rfl, star⟩
  refine head?_textOf_ne_star h.tail.1 ?_ star
  intro u hu
  exact (List.isChain_cons.1 h.2).1 u hu rfl

theorem scan_calm (h : Faithful (fun _ => true) ts) {lineComments fresh after : Bool}
    (calm : lineComments = false ∨ Calm fresh ts after) :
    scan lineComments fresh (textOf ts) = (ts, .closed) := by
  induction ts generalizing fresh with
  | nil => simp [scan]
  | cons t ts ih =>
    have clear : t.Clear lineComments fresh (textOf ts) := by
      rintro rfl
      refine ⟨fun star => h.opens_no_comment ⟨rfl, star⟩, fun known starts => ?_⟩
      rcases calm with no | calm
      · simp [no] at known
      · cases calm with
        | char calm _ => exact absurd ⟨starts, rfl⟩ calm
    have found : t.Found lineComments fresh (textOf ts) := by
      have whole := h.head
      cases t with
      | lineComment text => cases whole
      | _ => exact ⟨whole, clear⟩
    have rest : lineComments = false ∨ Calm (t.after fresh) ts after := by
      refine calm.imp_right fun calm => ?_
      cases calm with
      | char _ rest | quoted rest | comment rest => exact rest
    rw [textOf_cons, found.scan, ih h.tail rest]

theorem scan_textOf (h : Faithful (fun _ => true) ts) (fresh : Bool) :
    scan false fresh (textOf ts) = (ts, .closed) := by
  apply h.scan_calm
  · exact .inl rfl
  · exact fresh

end Faithful

/-- The tokens of a text that is closed are found again in it. -/
theorem scan_faithful {fresh : Bool} {s : List Char}
    (h : scan false fresh s = (ts, .closed)) : Faithful (fun _ => true) ts ∧ textOf ts = s := by
  induction ts generalizing fresh s with
  | nil =>
    obtain rfl := eq_nil_of_scan h
    exact ⟨.nil, rfl⟩
  | cons t ts ih =>
    obtain ⟨rest, rfl, found, h⟩ := found_of_scan h
    obtain ⟨faithful, rfl⟩ := ih h
    refine ⟨?_, rfl⟩
    cases t with
    | lineComment text => cases found.1.1
    | char c =>
      refine .cons found.1 ?_ faithful
      rintro u hu slash rfl
      obtain ⟨ts, rfl⟩ := List.head?_eq_some_iff.1 hu
      exact (found.2 slash).1 rfl
    | _ => exact .cons found.1 (fun _ _ => apart_of_ne (by simp)) faithful

end DesignTokens.Sheet
