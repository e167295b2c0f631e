import DesignTokens.Proofs.Sheet.Lexing
import DesignTokens.Proofs.Sheet.Tidied

namespace DesignTokens.Sheet

open Text (isBlank)

def ink (s : List Char) : List Char := s.filter (!isBlank ·)

namespace Token

def isBlank : Token → Bool
  | char c => Text.isBlank c
  | _ => false

def trimmed : Token → Token
  | lineComment text => lineComment (Text.trim text)
  | t => t

end Token

/-- The tokens that are no white space, each with whether white space stands before it. -/
def spacing (gap : Bool) : List Token → List (Bool × Token)
  | [] => []
  | t :: ts => if t.isBlank then spacing true ts else (gap, t) :: spacing false ts

def gapAfter (gap : Bool) : List Token → Bool
  | [] => gap
  | t :: ts => gapAfter t.isBlank ts

def Keeps (x y : Bool × Token) : Prop := y.2 = x.2.trimmed ∧ (x.1 = true → y.1 = true)

/-- The second tokens are the first with other white space, and with some wherever the first have
    some. The ends of a text count as white space. -/
def Respaced (ts us : List Token) : Prop := List.Forall₂ Keeps (spacing true ts) (spacing true us)

/-- The text `out` says what `text` says: the tokens `ts` are those of `text`, and the entries `es`
    make the lines of `out`. -/
structure Relaid (lineComments : Bool) (text out : List Char) (ts : List Token)
    (es : List Entry) : Prop where
  read : Lexes lineComments true text ts .closed
  reread : Lexes lineComments true out (Entry.spread 0 es) .closed
  sameInk : ink out = ink text
  respaced : Respaced ts (Entry.spread 0 es)
  verbatim : ∀ s, .quoted s ∈ ts ∨ .comment s ∈ ts → s <:+: out
  fit : ∀ e ∈ es, e.Fit lineComments
  indented : ∀ before e after, es = before ++ e :: after → ∃ level rest,
    Entry.spread 0 es = Entry.spread 0 before ++
      ((List.replicate (4 * level) ' ').map .char ++ (e.tokens ++ .char '\n' :: rest)) ∧
    level + (if e = .closing then 1 else 0) + (Entry.spread 0 before).count (.char '}') =
      (Entry.spread 0 before).count (.char '{')

def Entry.reached (level : Nat) (es : List Entry) : Nat := es.foldl Entry.levelAfter level

variable {lineComments gap gap' fresh : Bool} {t : Token} {ts us body : List Token} {s : List Char}
  {e : Entry} {es es' : List Entry} {level : Nat} {ending : Ending} {c : Char}

theorem spacing_append (gap : Bool) (ts us : List Token) :
    spacing gap (ts ++ us) = spacing gap ts ++ spacing (gapAfter gap ts) us := by
  induction ts generalizing gap with
  | nil => rfl
  | cons t ts ih =>
    rw [List.cons_append, spacing, spacing, gapAfter]
    split
    · next blank => rw [ih, blank]
    · next ink => rw [ih, Bool.eq_false_iff.2 ink, List.cons_append]

theorem gapAfter_concat (gap : Bool) (ts : List Token) (t : Token) :
    gapAfter gap (ts ++ [t]) = t.isBlank := by
  induction ts generalizing gap with
  | nil => rfl
  | cons u ts ih => exact ih u.isBlank

theorem spacing_blank (hc : isBlank c = true) (gap : Bool) (ts : List Token) :
    spacing gap (.char c :: ts) = spacing true ts := if_pos hc

theorem spacing_blanks (blank : ∀ c ∈ s, isBlank c = true) (ts : List Token) :
    spacing true (s.map .char ++ ts) = spacing true ts := by
  induction s with
  | nil => rfl
  | cons c s ih =>
    obtain ⟨first, others⟩ := List.forall_mem_cons.1 blank
    rw [List.map_cons, List.cons_append, spacing_blank first, ih others]

theorem spacing_spaced (ne : body ≠ []) (gap : Bool) (ts : List Token) :
    spacing gap (spaced body ++ ts) = spacing gap body ++ spacing true ts := by
  by_cases space : body.getLast? = some (.char ' ')
  · obtain ⟨init, rfl⟩ := List.getLast?_eq_some_iff.1 space
    rw [spaced, if_pos (.inr space), spacing_append, gapAfter_concat]
    rfl
  · rw [spaced, if_neg (by simp [ne, space]), List.append_assoc, spacing_append,
      List.singleton_append, spacing_blank (by decide)]

theorem spacing_unspaced (gap : Bool) (body : List Token) :
    spacing gap (unspaced body) = spacing gap body := by
  by_cases space : body.getLast? = some (.char ' ')
  · obtain ⟨init, rfl⟩ := List.getLast?_eq_some_iff.1 space
    rw [unspaced, if_pos space, List.dropLast_concat, spacing_append, spacing_blank (by decide)]
    simp [spacing]
  · rw [unspaced, if_neg space]

theorem keeps_spacing (plain : ∀ t ∈ ts, t.trimmed = t) (wider : gap = true → gap' = true) :
    List.Forall₂ Keeps (spacing gap ts) (spacing gap' ts) := by
  induction ts generalizing gap gap' with
  | nil => exact .nil
  | cons t ts ih =>
    obtain ⟨first, others⟩ := List.forall_mem_cons.1 plain
    rw [spacing, spacing]
    split
    · exact ih others id
    · exact .cons ⟨first.symm, wider⟩ (ih others id)

theorem Token.Inline.trimmed_eq (h : t.Inline) : t.trimmed = t := by
  cases t with
  | lineComment text => cases h
  | _ => rfl

theorem trimmed_spaced (plain : ∀ t ∈ body, t.trimmed = t) : ∀ t ∈ spaced body, t.trimmed = t := by
  rw [spaced]
  split
  · exact plain
  · exact List.forall_mem_append.2 ⟨plain, List.forall_mem_singleton.2 rfl⟩

namespace Entry

theorem spacing_spread_cons (level : Nat) (e : Entry) (es : List Entry) :
    spacing true (spread level (e :: es)) =
      spacing true e.tokens ++ spacing true (spread (e.levelAfter level) es) := by
  rw [spread, spacing_blanks fun c hc => isBlank_of_mem_indent hc, spacing_append,
    spacing_blank (by decide)]

theorem spacing_opening (body : List Token) :
    spacing true (opening (unspaced body)).tokens = spacing true body ++ [(true, .char '{')] := by
  rw [← spacing_unspaced true body]
  by_cases empty : unspaced body = []
  · rw [empty]
    rfl
  · rw [tokens_opening empty, spacing_append, spacing_blank (by decide)]
    rfl

theorem spacing_unfinished (level : Nat) (body : List Token) (es : List Entry) :
    spacing true (spread level (unfinished? body ++ es)) =
      spacing true body ++ spacing true (spread level es) := by
  by_cases empty : body = []
  · subst empty
    rfl
  · rw [unfinished?, if_neg empty, List.singleton_append, spacing_spread_cons, tokens,
      spacing_unspaced]
    rfl

end Entry

/-- The tokens of a draft and of the text behind it stand in the lines of its entries. -/
theorem keeps_entries (scanned : scan lineComments body.isEmpty s = (ts, ending))
    (plain : ∀ t ∈ body, t.trimmed = t) (gap : Bool) (level : Nat) :
    List.Forall₂ Keeps (spacing gap (body ++ ts))
      (spacing true (Entry.spread level (entries body ts))) := by
  have draft : List.Forall₂ Keeps (spacing gap body) (spacing true body) :=
    keeps_spacing plain fun _ => rfl
  induction ts generalizing s body gap level with
  | nil =>
    have line := Entry.spacing_unfinished level body []
    rw [List.append_nil] at line
    rw [entries, line, List.append_nil]
    simpa [Entry.spread, spacing] using draft
  | cons t ts ih =>
    obtain ⟨rest, rfl, found, scanned⟩ := found_of_scan scanned
    have anew (next : t.after body.isEmpty = true) (gap : Bool) (level : Nat) :
        List.Forall₂ Keeps (spacing gap ts)
          (spacing true (Entry.spread level (entries [] ts))) := by
      have fresh : scan lineComments ([] : List Token).isEmpty rest = (ts, ending) := by
        rwa [next] at scanned
      exact ih fresh (by simp) gap level .nil
    rcases found.cases with ⟨inline, first⟩ | ⟨text, rfl, start, whole⟩ | ⟨text, rfl⟩ |
      ⟨c, rfl, blank⟩ | rfl | rfl | rfl
    · -- The token joins the draft.
      have noComment : body = [] → ¬t.IsComment := fun none => first (List.isEmpty_iff.2 none)
      have filled : (body ++ [t]).isEmpty = false := by simp
      have plain' : ∀ u ∈ body ++ [t], u.trimmed = u :=
        List.forall_mem_append.2 ⟨plain, List.forall_mem_singleton.2 inline.trimmed_eq⟩
      rw [inline.after_eq first, ← filled] at scanned
      rw [entries_inline inline noComment, ← List.singleton_append, ← List.append_assoc]
      exact ih scanned plain' gap level (keeps_spacing plain' fun _ => rfl)
    · obtain rfl := List.isEmpty_iff.1 start
      rw [entries, if_pos rfl, Entry.spacing_spread_cons]
      exact .cons ⟨rfl, fun _ => rfl⟩ (anew rfl false level)
    · obtain rfl := List.isEmpty_iff.1 found.1.2
      rw [entries, Entry.spacing_spread_cons]
      exact .cons ⟨rfl, fun _ => rfl⟩ (anew rfl false level)
    · -- White space comes to a single space in the draft, or to the beginning of a line.
      rw [Token.after, startsAfter_blank blank] at scanned
      rw [entries_blank blank]
      by_cases empty : body = []
      · subst empty
        rw [List.nil_append, spacing_blank blank]
        exact ih scanned plain true level .nil
      · rw [← isEmpty_spaced] at scanned
        have plain' := trimmed_spaced plain
        have below := ih scanned plain' gap level (keeps_spacing plain' fun _ => rfl)
        rwa [spacing_spaced empty, ← spacing_blank blank (gapAfter gap body), ← spacing_append]
          at below
    · rw [entries, Entry.spacing_spread_cons, Entry.spacing_opening, spacing_append,
        List.append_assoc]
      exact List.rel_append draft (.cons ⟨rfl, fun _ => rfl⟩ (anew rfl false (level + 1)))
    · rw [entries, Entry.spacing_unfinished, Entry.spacing_spread_cons, spacing_append]
      exact List.rel_append draft (.cons ⟨rfl, fun _ => rfl⟩ (anew rfl false (level - 1)))
    · have joined : List.Forall₂ Keeps (spacing gap (body ++ [.char ';']))
          (spacing true (body ++ [.char ';'])) := by
        apply keeps_spacing _ fun _ => rfl
        exact List.forall_mem_append.2 ⟨plain, by simp [Token.trimmed]⟩
      rw [entries, Entry.spacing_spread_cons, ← List.singleton_append, ← List.append_assoc,
        spacing_append gap (body ++ _), gapAfter_concat]
      exact List.rel_append joined (anew rfl false level)

theorem ink_eq_nil (blank : ∀ c ∈ s, isBlank c = true) : ink s = [] := by
  rw [ink, List.filter_eq_nil_iff]
  intro c hc
  simp [blank c hc]

theorem ink_append (s s' : List Char) : ink (s ++ s') = ink s ++ ink s' := List.filter_append ..

theorem ink_trim (s : List Char) : ink (Text.trim s) = ink s := by
  have front : s.takeWhile isBlank ++ Text.trimStart s = s := List.takeWhile_append_dropWhile
  obtain ⟨blanks, split, blank⟩ := Text.exists_trimEnd_append (Text.trimStart s)
  calc ink (Text.trim s)
      = ink (Text.trim s ++ blanks) := by rw [ink_append, ink_eq_nil blank, List.append_nil]
    _ = ink (Text.trimStart s) := by rw [Text.trim, ← split]
    _ = ink (s.takeWhile isBlank ++ Text.trimStart s) := by
      rw [ink_append, ink_eq_nil fun c hc => List.mem_takeWhile_imp hc, List.nil_append]
    _ = ink s := by rw [front]

theorem Token.ink_trimmed (t : Token) : ink t.trimmed.text = ink t.text := by
  cases t with
  | lineComment text => exact ink_trim text
  | _ => rfl

theorem Token.ink_blank (h : t.isBlank = true) : ink t.text = [] := by
  cases t with
  | char c => exact ink_eq_nil (List.forall_mem_singleton.2 h)
  | _ => cases h

theorem ink_textOf (gap : Bool) (ts : List Token) :
    ink (textOf ts) = (spacing gap ts).flatMap (ink ·.2.text) := by
  induction ts generalizing gap with
  | nil => rfl
  | cons t ts ih =>
    rw [textOf_cons, ink_append, spacing]
    split
    · next blank => rw [t.ink_blank blank, ih true, List.nil_append]
    · rw [ih false, List.flatMap_cons]

theorem mem_spacing (ht : t ∈ ts) (ink : t.isBlank = false) (gap : Bool) :
    ∃ gap', (gap', t) ∈ spacing gap ts := by
  induction ts generalizing gap with
  | nil => cases ht
  | cons u ts ih =>
    rw [spacing]
    rcases List.mem_cons.1 ht with rfl | ht
    · rw [if_neg (by simp [ink])]
      exact ⟨gap, List.mem_cons_self⟩
    · split
      · exact ih ht true
      · obtain ⟨gap', found⟩ := ih ht false
        exact ⟨gap', List.mem_cons_of_mem _ found⟩

theorem mem_of_mem_spacing {x : Bool × Token} (h : x ∈ spacing gap ts) : x.2 ∈ ts := by
  induction ts generalizing gap with
  | nil => cases h
  | cons t ts ih =>
    rw [spacing] at h
    split at h
    · exact List.mem_cons_of_mem t (ih h)
    · rcases List.mem_cons.1 h with rfl | h
      · exact List.mem_cons_self
      · exact List.mem_cons_of_mem t (ih h)

theorem exists_keeps {xs ys : List (Bool × Token)} (h : List.Forall₂ Keeps xs ys)
    {x : Bool × Token} (hx : x ∈ xs) : ∃ y ∈ ys, Keeps x y := by
  induction h with
  | nil => cases hx
  | @cons x' y xs ys keeps _ ih =>
    rcases List.mem_cons.1 hx with rfl | hx
    · exact ⟨y, List.mem_cons_self, keeps⟩
    · obtain ⟨y, hy, keeps⟩ := ih hx
      exact ⟨y, List.mem_cons_of_mem _ hy, keeps⟩

namespace Respaced

theorem ink_eq (h : Respaced ts us) : ink (textOf us) = ink (textOf ts) := by
  rw [ink_textOf true, ink_textOf true]
  rw [Respaced] at h
  generalize spacing true ts = xs, spacing true us = ys at h
  induction h with
  | nil => rfl
  | cons keeps _ ih =>
    rw [List.flatMap_cons, List.flatMap_cons, keeps.1, Token.ink_trimmed, ih]

theorem infix_of_mem (h : Respaced ts us) (ht : t ∈ ts) (ink : t.isBlank = false)
    (same : t.trimmed = t) : t.text <:+: textOf us := by
  obtain ⟨gap, found⟩ := mem_spacing ht ink true
  obtain ⟨y, hy, kept, -⟩ := exists_keeps h found
  have member : t ∈ us := by
    have member := mem_of_mem_spacing hy
    rwa [kept, same] at member
  obtain ⟨before, after, rfl⟩ := List.append_of_mem member
  exact ⟨textOf before, textOf after, by simp⟩

end Respaced

namespace Entry

theorem reached_cons (level : Nat) (e : Entry) (es : List Entry) :
    reached level (e :: es) = reached (e.levelAfter level) es := rfl

theorem spread_append (level : Nat) (es es' : List Entry) :
    spread level (es ++ es') = spread level es ++ spread (reached level es) es' := by
  induction es generalizing level with
  | nil => rfl
  | cons e es ih => simp [spread, ih, reached_cons]

theorem Nested.behind (h : Nested level (es ++ es')) : Nested (reached level es) es' := by
  induction es generalizing level with
  | nil => exact h
  | cons e es ih => exact ih h.2.2

theorem count_indent (level : Nat) {c : Char} (hc : c ≠ ' ') :
    ((indent level).map .char).count (Token.char c) = 0 := by
  rw [List.count_eq_zero]
  intro found
  obtain ⟨d, hd, same⟩ := List.mem_map.1 found
  cases same
  exact hc (List.eq_of_mem_replicate hd)

end Entry

theorem Draft.count_brace {inked : Bool} (h : Draft lineComments inked body) {c : Char}
    (brace : c = '{' ∨ c = '}') : body.count (.char c) = 0 := by
  rw [List.count_eq_zero]
  induction h with
  | nil => exact List.not_mem_nil
  | token _ inline _ _ ih =>
    rw [List.mem_append, List.mem_singleton]
    rintro (found | rfl)
    · exact ih found
    · obtain ⟨-, -, opening, closing, -⟩ := inline
      exact brace.elim opening closing
  | space _ ih =>
    rw [List.mem_append, List.mem_singleton]
    rintro (found | same)
    · exact ih found
    · cases same
      simp at brace

namespace Entry

theorem Fit.levelAfter_add (fit : e.Fit lineComments) (partner : e = closing → 0 < level) :
    e.levelAfter level + e.tokens.count (.char '}') = level + e.tokens.count (.char '{') := by
  cases e with
  | opening selector =>
    by_cases empty : selector = []
    · subst empty
      rfl
    · have draft := fit.resolve_left empty
      rw [tokens_opening empty]
      simp [levelAfter, draft.count_brace]
  | statement body =>
    obtain ⟨inked, draft⟩ := fit
    simp [levelAfter, tokens, draft.count_brace]
  | unfinished body =>
    have draft : Draft lineComments true body := fit
    simp [levelAfter, tokens, draft.count_brace]
  | comment text | lineComment text => simp [levelAfter, tokens]
  | closing =>
    have positive := partner rfl
    simp [levelAfter, tokens]
    omega

theorem reached_add (fit : ∀ e ∈ es, e.Fit lineComments) (nested : Nested level (es ++ es')) :
    reached level es + (spread level es).count (.char '}') =
      level + (spread level es).count (.char '{') := by
  induction es generalizing level with
  | nil => rfl
  | cons e es ih =>
    obtain ⟨first, others⟩ := List.forall_mem_cons.1 fit
    obtain ⟨partner, -, nested⟩ := nested
    have here := first.levelAfter_add partner
    have below := ih others nested
    rw [reached_cons, spread]
    simp only [List.count_append, List.count_cons, count_indent _ (by decide : '{' ≠ ' '),
      count_indent _ (by decide : '}' ≠ ' '), beq_iff_eq, Token.char.injEq, Char.reduceEq, if_false]
    omega

theorem levelAt_add (partner : e = closing → 0 < level) :
    e.levelAt level + (if e = closing then 1 else 0) = level := by
  cases e with
  | closing => exact Nat.sub_add_cancel (partner rfl)
  | _ => rfl

end Entry

/-- The layout changes white space only. -/
theorem format_relaid {dialect : Dialect} {text out : String} (sheet : dialect ≠ .json)
    (h : format dialect text = .ok out) :
    ∃ ts es, Relaid (dialect = .scss) text.toList out.toList ts es := by
  obtain ⟨ts, lines, scanned, laid, same⟩ := tidy_eq_ok_iff.1 ((format_eq_ok_iff sheet).1 h)
  obtain ⟨fit, nested, rfl⟩ := tidied_of_layout .nil Draft.nil.seam_of_space scanned laid
  have spread : out.toList = textOf (Entry.spread 0 (entries [] ts)) := by
    rw [← same, Entry.textOf_spread]
  have read := lexes_of_scan scanned
  have spelled : text.toList = textOf ts := by simpa [Ending.left] using read.text_eq
  have fresh : scan (dialect = .scss) ([] : List Token).isEmpty text.toList = (ts, .closed) :=
    scanned
  have respaced : Respaced ts (Entry.spread 0 (entries [] ts)) :=
    keeps_entries fresh (by simp) true 0
  refine ⟨ts, entries [] ts, read, ?_, ?_, respaced, ?_, fit, ?_⟩
  · rw [spread]
    exact lexes_of_scan (Entry.scan_spread fit nested (by simp))
  · rw [spread, spelled, respaced.ink_eq]
  · rw [spread]
    rintro s (quoted | comment)
    · exact respaced.infix_of_mem quoted rfl rfl
    · exact respaced.infix_of_mem comment rfl rfl
  · intro before e after split
    rw [split] at nested fit ⊢
    have passed := Entry.reached_add (List.forall_mem_append.1 fit).1 nested
    have here := Entry.levelAt_add nested.behind.1
    refine ⟨e.levelAt (Entry.reached 0 before), _, Entry.spread_append 0 before (e :: after), ?_⟩
    rw [here, passed, Nat.zero_add]

def wrinkled : String :=
  "/* a\n  b */.c\u00a0\u3000.d\x7b e:'\x7b  \\'' ;\n//  f  \r\n&:g\x7b\x7dh/*  */  \"\n\"\x7d"

def pressed : String :=
  "/* a\n  b */\n.c .d \x7b\n    e:'\x7b  \\'' ;\n    //  f\n    &:g \x7b\n    \x7d\n" ++
  "    h/*  */ \"\n\"\n\x7d\n"

theorem wrinkled_relaid : Dialect.scss ≠ .json ∧ format .scss wrinkled = .ok pressed ∧
    ∃ ts es, Relaid true wrinkled.toList pressed.toList ts es := by
  have scss : Dialect.scss ≠ .json := by decide
  have laid : format .scss wrinkled = .ok pressed := by decide +kernel
  exact ⟨scss, laid, format_relaid scss laid⟩

end DesignTokens.Sheet
