import DesignTokens.Proofs.Sheet.Phrase

namespace DesignTokens.Sheet

open Text (isBlank)

inductive Balanced : List Token → Prop
  | nil : Balanced []
  | other {t : Token} {ts : List Token} (opening : t ≠ .char '{') (closing : t ≠ .char '}')
    (rest : Balanced ts) : Balanced (t :: ts)
  | block {inner rest : List Token} (h : Balanced inner) (h' : Balanced rest) :
    Balanced (.char '{' :: (inner ++ .char '}' :: rest))

variable {total level : Nat} {t : Token} {ts us : List Token} {s s' : List Char} {c : Char}

theorem Balanced.append (h : Balanced ts) (h' : Balanced us) : Balanced (ts ++ us) := by
  induction h with
  | nil => exact h'
  | other opening closing _ ih => exact .other opening closing ih
  | block inner _ _ ih =>
    rw [List.cons_append, List.append_assoc, List.cons_append]
    exact .block inner ih

theorem Balanced.of_no_brace (h : ∀ t ∈ ts, t ≠ .char '{' ∧ t ≠ .char '}') : Balanced ts := by
  induction ts with
  | nil => exact .nil
  | cons t ts ih =>
    obtain ⟨first, rest⟩ := List.forall_mem_cons.1 h
    exact .other first.1 first.2 (ih rest)

def Accepted (total level : Nat) (ts : List Token) : Prop :=
  ∀ offset pending, ∃ lines, layout total .closed level offset pending ts = .ok lines

theorem exists_emit {rest : Except LayoutError (List Line)} (front : List Line)
    (h : ∃ lines, rest = .ok lines) : ∃ lines, emit front rest = .ok lines := by
  obtain ⟨lines, rfl⟩ := h
  exact ⟨front ++ lines, rfl⟩

theorem accepted_nil (total : Nat) : Accepted total 0 [] := fun _ _ => ⟨_, rfl⟩

theorem Accepted.opening (h : Accepted total (level + 1) ts) :
    Accepted total level (.char '{' :: ts) := by
  intro offset pending
  rw [layout]
  exact exists_emit _ (h _ _)

theorem Accepted.closing (h : Accepted total level ts) :
    Accepted total (level + 1) (.char '}' :: ts) := by
  intro offset pending
  rw [layout]
  exact exists_emit _ (h _ _)

theorem Accepted.other (opening : t ≠ .char '{') (closing : t ≠ .char '}')
    (h : Accepted total level ts) : Accepted total level (t :: ts) := by
  intro offset pending
  unfold layout
  split
  · exact h _ _
  · split
    · exact exists_emit _ (h _ _)
    · exact h _ _
  · exact exists_emit _ (h _ _)
  · exact absurd rfl opening
  · exact absurd rfl closing
  · exact exists_emit _ (h _ _)
  · exact h _ _

theorem Balanced.accepted (h : Balanced ts) (rest : Accepted total level us) :
    Accepted total level (ts ++ us) := by
  induction h generalizing level us with
  | nil => exact rest
  | other opening closing _ ih => exact .other opening closing (ih rest)
  | block _ _ inner outer =>
    rw [List.cons_append, List.append_assoc, List.cons_append]
    exact .opening (inner (.closing (outer rest)))

theorem format_of_balanced {text : String} (faithful : Faithful (fun _ => true) ts)
    (balanced : Balanced ts) (spelled : textOf ts = text.toList) :
    ∃ out, format .css text = .ok out := by
  have accepted := balanced.accepted (accepted_nil (Text.byteSize text.toList))
  rw [List.append_nil] at accepted
  obtain ⟨lines, laid⟩ := accepted 0 []
  rw [format, tidy, ← spelled, decide_eq_false (by simp), faithful.scan_textOf, spelled]
  dsimp only
  rw [laid]
  exact ⟨_, rfl⟩

/-- The text leaves no string and no comment open, and has no brace outside of these. -/
def Contained (s : List Char) : Prop :=
  (scan false true s).2 = .closed ∧ ∀ t ∈ (scan false true s).1, t ≠ .char '{' ∧ t ≠ .char '}'

instance (s : List Char) : Decidable (Contained s) := by unfold Contained; infer_instance

def isInert (c : Char) : Bool := !isQuote c && c ∉ ['/', '*', '\x7b', '\x7d']

def Inert (s : List Char) : Prop := ∀ c ∈ s, isInert c = true

instance (s : List Char) : Decidable (Inert s) :=
  decidable_of_iff (s.all isInert = true) List.all_eq_true

theorem contained_iff : Contained s ↔ ∃ ts, Faithful (fun _ => true) ts ∧ textOf ts = s ∧
    ∀ t ∈ ts, t ≠ .char '{' ∧ t ≠ .char '}' := by
  constructor
  · rintro ⟨closed, noBrace⟩
    obtain ⟨faithful, text⟩ := scan_faithful (Prod.ext rfl closed)
    exact ⟨_, faithful, text, noBrace⟩
  · rintro ⟨ts, faithful, rfl, noBrace⟩
    rw [Contained, faithful.scan_textOf]
    exact ⟨rfl, noBrace⟩

theorem Faithful.append_of_head (h : Faithful (fun _ => true) ts) (h' : Faithful (fun _ => true) us)
    (noStar : us.head? ≠ some (.char '*')) : Faithful (fun _ => true) (ts ++ us) := by
  refine ⟨List.forall_mem_append.2 ⟨h.1, h'.1⟩, List.isChain_append.2 ⟨h.2, h'.2, ?_⟩⟩
  rintro t - u hu - rfl
  exact noStar hu

theorem isInert_ne (h : isInert c = true) :
    isQuote c = false ∧ c ≠ '/' ∧ c ≠ '*' ∧ c ≠ '{' ∧ c ≠ '}' := by
  simpa [isInert] using h

theorem isInert_of_isBlank (h : isBlank c = true) : isInert c = true := by
  by_contra other
  have special : c ∈ ['\'', '"', '/', '*', '\x7b', '\x7d'] := by
    by_contra plain
    simp only [List.mem_cons, not_or] at plain
    simp [isInert, isQuote, plain] at other
  simp only [List.mem_cons, List.not_mem_nil, or_false] at special
  rcases special with rfl | rfl | rfl | rfl | rfl | rfl <;> cases h

namespace Inert

theorem nil : Inert [] := by simp [Inert]

theorem append (h : Inert s) (h' : Inert s') : Inert (s ++ s') := List.forall_mem_append.2 ⟨h, h'⟩

end Inert

theorem faithful_inert (h : isInert c = true) : Faithful (fun _ => true) [.char c] :=
  .cons (isInert_ne h).1 (by simp) .nil

theorem Faithful.init (h : Faithful (fun _ => true) (ts ++ us)) : Faithful (fun _ => true) ts :=
  ⟨fun t ht => h.1 t (List.mem_append_left us ht), (List.isChain_append.1 h.2).1⟩

theorem closeComment_getLast? {body rest : List Char} (h : closeComment s = some (body, rest)) :
    body.getLast? = some '/' := by
  fun_induction closeComment s generalizing body with
  | case1 => cases h
  | case2 => cases h; rfl
  | case3 c s _ ih =>
    obtain ⟨⟨b, r⟩, hb, hp⟩ := Option.map_eq_some_iff.1 h
    cases hp
    rw [List.getLast?_cons, ih hb]
    rfl

theorem eq_char_of_head (whole : t.Whole fun _ => true) (hc : isInert c = true)
    (head : t.text.head? = some c) : t = .char c := by
  obtain ⟨noQuote, noSlash, -⟩ := isInert_ne hc
  cases t with
  | char d =>
    cases head
    rfl
  | quoted text =>
    obtain ⟨quote, body, rfl, hq, -⟩ := whole
    cases head
    rw [noQuote] at hq
    cases hq
  | comment text =>
    obtain ⟨body, rfl, -⟩ := whole
    cases head
    exact absurd rfl noSlash
  | lineComment text => cases whole

theorem eq_char_of_getLast (whole : t.Whole fun _ => true) (hc : isInert c = true)
    (last : t.text.getLast? = some c) : t = .char c := by
  obtain ⟨noQuote, noSlash, -⟩ := isInert_ne hc
  cases t with
  | char d =>
    cases last
    rfl
  | quoted text =>
    obtain ⟨quote, body, rfl, hq, closed⟩ := whole
    obtain ⟨inner, rfl, -⟩ := enclosed_of_closeQuote closed
    have same : (quote :: (inner ++ [quote])).getLast? = some quote := by
      rw [← List.cons_append, List.getLast?_concat]
    obtain rfl := Option.some.inj (same.symm.trans last)
    rw [noQuote] at hq
    cases hq
  | comment text =>
    obtain ⟨body, rfl, closed⟩ := whole
    have same : ('/' :: '*' :: body).getLast? = some '/' := by
      rw [List.getLast?_cons, List.getLast?_cons, closeComment_getLast? closed]
      rfl
    exact absurd (Option.some.inj (same.symm.trans last)).symm noSlash
  | lineComment text => cases whole

theorem Token.Whole.text_ne_nil (whole : t.Whole fun _ => true) : t.text ≠ [] := by
  cases t with
  | char c => exact List.cons_ne_nil _ _
  | quoted text =>
    obtain ⟨quote, body, rfl, -⟩ := whole
    exact List.cons_ne_nil _ _
  | comment text =>
    obtain ⟨body, rfl, -⟩ := whole
    exact List.cons_ne_nil _ _
  | lineComment text => cases whole

namespace Contained

theorem nil : Contained [] := contained_iff.2 ⟨[], .nil, rfl, by simp⟩

theorem cons_iff (hc : isInert c = true) : Contained (c :: s) ↔ Contained s := by
  obtain ⟨noQuote, noSlash, -, noOpening, noClosing⟩ := isInert_ne hc
  rw [contained_iff, contained_iff]
  constructor
  · rintro ⟨ts, faithful, text, noBrace⟩
    cases ts with
    | nil => cases text
    | cons t ts =>
      -- No string and no comment begins with the character, so it is a token by itself.
      have head : t.text.head? = some c := by
        have front : (t.text ++ textOf ts).head? = t.text.head? :=
          List.head?_append_of_ne_nil _ faithful.head.text_ne_nil
        rw [← front, ← textOf_cons, text]
        rfl
      obtain rfl := eq_char_of_head faithful.head hc head
      exact ⟨ts, faithful.tail, (List.cons.inj text).2, (List.forall_mem_cons.1 noBrace).2⟩
  · rintro ⟨ts, faithful, rfl, noBrace⟩
    refine ⟨.char c :: ts, .cons noQuote (fun u _ => apart_of_ne (by simpa using noSlash)) faithful,
      rfl, ?_⟩
    exact List.forall_mem_cons.2 ⟨by simp [noOpening, noClosing], noBrace⟩

theorem concat_iff (hc : isInert c = true) : Contained (s ++ [c]) ↔ Contained s := by
  obtain ⟨noQuote, noSlash, noStar, noOpening, noClosing⟩ := isInert_ne hc
  rw [contained_iff, contained_iff]
  constructor
  · rintro ⟨ts, faithful, text, noBrace⟩
    rcases List.eq_nil_or_concat ts with rfl | ⟨init, t, rfl⟩
    · simp at text
    · have whole := faithful.1 t (by simp)
      rw [List.concat_eq_append] at faithful text noBrace
      rw [textOf_append, textOf_cons, textOf_nil, List.append_nil] at text
      have last : t.text.getLast? = some c := by
        rw [← List.getLast?_append_of_ne_nil (textOf init) whole.text_ne_nil, text,
          List.getLast?_concat]
      obtain rfl := eq_char_of_getLast whole hc last
      exact ⟨init, faithful.init, List.append_cancel_right text,
        (List.forall_mem_append.1 noBrace).1⟩
  · rintro ⟨ts, faithful, rfl, noBrace⟩
    refine ⟨ts ++ [.char c], faithful.append_of_head (faithful_inert hc) (by simp [noStar]), ?_, ?_⟩
    · simp [Token.text]
    · exact List.forall_mem_append.2 ⟨noBrace, by simp [noOpening, noClosing]⟩

theorem append_inert {t : List Char} (inert : Inert t) :
    Contained (s ++ t) ↔ Contained s := by
  induction t using List.reverseRecOn with
  | nil => simp
  | append_singleton t c ih =>
    rw [← List.append_assoc, concat_iff (inert c (by simp)), ih fun d hd => inert d (by simp [hd])]

theorem inert_append {t : List Char} (inert : Inert t) :
    Contained (t ++ s) ↔ Contained s := by
  induction t with
  | nil => simp
  | cons c t ih =>
    obtain ⟨first, rest⟩ := List.forall_mem_cons.1 inert
    rw [List.cons_append, cons_iff first, ih rest]

theorem trim (h : Contained s) : Contained (Text.trim s) := by
  have front : Contained (Text.trimStart s) := by
    have split : s.takeWhile isBlank ++ Text.trimStart s = s := List.takeWhile_append_dropWhile
    rw [← split] at h
    exact (inert_append fun c hc => isInert_of_isBlank (List.mem_takeWhile_imp hc)).1 h
  obtain ⟨blanks, split, blank⟩ := Text.exists_trimEnd_append (Text.trimStart s)
  rw [split] at front
  exact (append_inert fun c hc => isInert_of_isBlank (blank c hc)).1 front

theorem suffix (h : Contained s) (front : ∃ t, s = t ++ s' ∧ Inert t) : Contained s' := by
  obtain ⟨t, rfl, inert⟩ := front
  exact (inert_append inert).1 h

end Contained

def Sealed (s : List Char) : Prop := ∃ ts, Faithful (fun _ => true) ts ∧ Balanced ts ∧
  ts.head? ≠ some (.char '*') ∧ textOf ts = s

namespace Sealed

theorem nil : Sealed [] := ⟨[], .nil, .nil, by simp, rfl⟩

theorem append (h : Sealed s) (h' : Sealed s') : Sealed (s ++ s') := by
  obtain ⟨ts, faithful, balanced, noStar, rfl⟩ := h
  obtain ⟨us, faithful', balanced', noStar', rfl⟩ := h'
  refine ⟨ts ++ us, faithful.append_of_head faithful' noStar', balanced.append balanced', ?_, by simp⟩
  cases ts with
  | nil => exact noStar'
  | cons t ts => exact noStar

theorem of_contained (h : Contained s) (noStar : s.head? ≠ some '*') : Sealed s := by
  obtain ⟨ts, faithful, rfl, noBrace⟩ := contained_iff.1 h
  refine ⟨ts, faithful, .of_no_brace noBrace, ?_, rfl⟩
  intro star
  cases ts with
  | nil => cases star
  | cons t ts =>
    cases star
    exact noStar rfl

theorem of_inert (inert : Inert s) : Sealed s := by
  apply of_contained
  · simpa using (Contained.append_inert inert).2 .nil
  · intro star
    exact (isInert_ne (inert '*' (List.mem_of_head? star))).2.2.1 rfl

theorem cons (hc : isInert c = true) (h : Contained s) : Sealed (c :: s) :=
  of_contained ((Contained.cons_iff hc).2 h) (by simp [(isInert_ne hc).2.2.1])

theorem block (h : Sealed s) : Sealed ('{' :: (s ++ ['}'])) := by
  obtain ⟨ts, faithful, balanced, noStar, rfl⟩ := h
  have closing : Faithful (fun _ => true) [.char '}'] := .cons rfl (by simp) .nil
  have opening : Faithful (fun _ => true) [.char '{'] := .cons rfl (by simp) .nil
  have inner := faithful.append_of_head closing (by simp)
  refine ⟨.char '{' :: (ts ++ [.char '}']), ?_, .block balanced .nil, by simp, by simp [Token.text]⟩
  apply opening.append_of_head inner
  cases ts with
  | nil => simp
  | cons t ts => exact noStar

theorem flatten {ss : List (List Char)} (h : ∀ s ∈ ss, Sealed s) : Sealed ss.flatten := by
  induction ss with
  | nil => exact nil
  | cons s ss ih =>
    obtain ⟨first, rest⟩ := List.forall_mem_cons.1 h
    exact first.append (ih rest)

theorem intercalate {sep : List Char} {ss : List (List Char)} (hs : Sealed sep)
    (h : ∀ s ∈ ss, Sealed s) : Sealed (List.intercalate sep ss) := by
  induction ss with
  | nil => exact nil
  | cons s ss ih =>
    obtain ⟨first, rest⟩ := List.forall_mem_cons.1 h
    by_cases last : ss = []
    · simpa [last] using first
    · rw [List.intercalate_cons_of_ne_nil last]
      exact (first.append hs).append (ih rest)

theorem format {text : String} (h : Sealed text.toList) : ∃ out, format .css text = .ok out := by
  obtain ⟨ts, faithful, balanced, -, spelled⟩ := h
  exact format_of_balanced faithful balanced spelled

end Sealed

end DesignTokens.Sheet
