import DesignTokens.Proofs.Pattern.Reaching

namespace DesignTokens.Regex

open Reached

/-- With `s` left of a text, `n` moves can take a program from a step to its end. -/
inductive Arrives (P : Array Step) (text : List Char) : Nat → Nat → List Char → Prop
  | done (s : List Char) : Arrives P text 0 P.size s
  | silent {n k l : Nat} {s : List Char} (next : l ∈ targets P (s = text) s.isEmpty k)
      (rest : Arrives P text n l s) : Arrives P text (n + 1) k s
  | read {n k l : Nat} {c : Char} {s : List Char} (next : l ∈ advance P c k)
      (rest : Arrives P text n l s) : Arrives P text (n + 1) k (c :: s)

def Ends (P : Array Step) (text : List Char) (k : Nat) (s : List Char) : Prop :=
  ∃ n, Arrives P text n k s

variable {P : Array Step} {text s : List Char} {found found' : Reached} {k l n : Nat} {c : Char}
  {ks : List Nat}

theorem Ends.silent (next : l ∈ targets P (s = text) s.isEmpty k) (h : Ends P text l s) :
    Ends P text k s :=
  h.elim fun _ way => ⟨_, .silent next way⟩

theorem Ends.read (next : l ∈ advance P c k) (h : Ends P text l s) : Ends P text k (c :: s) :=
  h.elim fun _ way => ⟨_, .read next way⟩

theorem Reaches.ends (h : Reaches P (s = text) s.isEmpty k l) (rest : Ends P text l s) :
    Ends P text k s := by
  induction h using Relation.ReflTransGen.head_induction_on with
  | refl => exact rest
  | head next _ ih => exact ih.silent next

theorem Explored.ends_iff (closed : Closed P (s = text) s.isEmpty found)
    (search : Explored P (s = text) s.isEmpty found ks found') :
    (∃ k, found'.contains k = true ∧ Ends P text k s) ↔
      (∃ k, found.contains k = true ∧ Ends P text k s) ∨ ∃ k ∈ ks, Ends P text k s := by
  constructor
  · rintro ⟨n, marked, rest⟩
    rcases (closed.contains_iff search).1 marked with before | ⟨k, hk, reached⟩
    · exact .inl ⟨n, before, rest⟩
    · exact .inr ⟨k, hk, reached.ends rest⟩
  · rintro (⟨k, before, rest⟩ | ⟨k, hk, rest⟩)
    · exact ⟨k, search.keeps k before, rest⟩
    · exact ⟨k, search.reaches k hk, rest⟩

theorem Closed.arrives (closed : Closed P (s = text) s.isEmpty found)
    (marked : found.contains k = true) (h : Arrives P text n k s) :
    found.contains P.size = true ∨ ∃ c rest, s = c :: rest ∧
      ∃ l ∈ found.steps.toList.flatMap (advance P c), Ends P text l rest := by
  induction h with
  | done => exact .inl marked
  | silent next _ ih => exact ih closed (closed.closed _ marked _ next)
  | read next way =>
    exact .inr ⟨_, _, rfl, _, List.mem_flatMap.2 ⟨_, (closed.listed _).2 marked, next⟩, _, way⟩

theorem Closed.ends_cons_iff (closed : Closed P (c :: s = text) false found) :
    (∃ k, found.contains k = true ∧ Ends P text k (c :: s)) ↔
      found.contains P.size = true ∨
        ∃ k ∈ found.steps.toList.flatMap (advance P c), Ends P text k s := by
  constructor
  · rintro ⟨k, marked, n, way⟩
    refine (Closed.arrives closed marked way).imp_right ?_
    rintro ⟨_, _, same, further⟩
    cases same
    exact further
  · rintro (done | ⟨l, next, rest⟩)
    · exact ⟨P.size, done, 0, .done _⟩
    · obtain ⟨k, listed, next⟩ := List.mem_flatMap.1 next
      exact ⟨k, (closed.listed k).1 listed, rest.read next⟩

theorem Closed.ends_nil_iff (closed : Closed P ([] = text) true found) :
    (∃ k, found.contains k = true ∧ Ends P text k []) ↔ found.contains P.size = true := by
  constructor
  · rintro ⟨k, marked, n, way⟩
    refine (Closed.arrives closed marked way).resolve_right ?_
    rintro ⟨_, _, same, -⟩
    cases same
  · exact fun done => ⟨P.size, done, 0, .done _⟩

theorem suffix_cons_ne_iff {t : List Char} : t <:+ c :: s ∧ t ≠ c :: s ↔ t <:+ s := by
  constructor
  · rintro ⟨suffix, other⟩
    exact (List.suffix_cons_iff.1 suffix).resolve_left other
  · intro suffix
    refine ⟨suffix.trans (List.suffix_cons c s), ?_⟩
    rintro rfl
    exact absurd suffix.length_le (by simp)

theorem exists_suffix_iff {p : List Char → Prop} :
    (∃ t, t <:+ s ∧ p t) ↔ p s ∨ ∃ t, t <:+ s ∧ t ≠ s ∧ p t := by
  constructor
  · rintro ⟨t, suffix, h⟩
    by_cases same : t = s
    · exact .inl (same ▸ h)
    · exact .inr ⟨t, suffix, same, h⟩
  · rintro (h | ⟨t, suffix, -, h⟩)
    · exact ⟨s, List.suffix_rfl, h⟩
    · exact ⟨t, suffix, h⟩

theorem exists_suffix_cons_iff {p : List Char → Prop} :
    (∃ t, t <:+ c :: s ∧ t ≠ c :: s ∧ p t) ↔ ∃ t, t <:+ s ∧ p t := by
  refine exists_congr fun t => ?_
  rw [← and_assoc, suffix_cons_ne_iff]

theorem decide_behind (inside : c :: s <:+ text) : decide (s = text) = false := by
  apply decide_eq_false
  rintro rfl
  exact absurd inside.length_le (by simp)

theorem explored_behind (inside : c :: s <:+ text) (steps : List Nat) :
    Explored P (s = text) s.isEmpty nothing (steps.flatMap (advance P c))
      (Reached.read P c s.isEmpty steps) := by
  rw [decide_behind inside]
  exact explored_read c steps

theorem scan_iff (closed : Closed P (s = text) s.isEmpty found) (inside : s <:+ text) :
    scan P found s = true ↔ (∃ k, found.contains k = true ∧ Ends P text k s) ∨
      ∃ t, t <:+ s ∧ t ≠ s ∧ Ends P text 0 t := by
  induction s generalizing found with
  | nil =>
    rw [scan, Bool.or_false, Closed.ends_nil_iff closed]
    refine (or_iff_left ?_).symm
    rintro ⟨t, suffix, other, -⟩
    exact other (List.suffix_nil.1 suffix)
  | cons c s ih =>
    have behind : s <:+ text := (List.suffix_cons c s).trans inside
    have start : Closed P (decide (s = text)) s.isEmpty nothing := closed_nothing
    have read := explored_behind (P := P) inside found.steps.toList
    have anew : Explored P (decide (s = text)) s.isEmpty
        (Reached.read P c s.isEmpty found.steps.toList) [0]
        ((Reached.read P c s.isEmpty found.steps.toList).reach P false s.isEmpty 0) :=
      decide_behind inside ▸ explored_reach
    have later : (∃ t, t <:+ c :: s ∧ t ≠ c :: s ∧ Ends P text 0 t) ↔
        Ends P text 0 s ∨ ∃ t, t <:+ s ∧ t ≠ s ∧ Ends P text 0 t :=
      exists_suffix_cons_iff.trans exists_suffix_iff
    rw [scan, Bool.or_eq_true, ih ((start.explored read).explored anew) behind,
      anew.ends_iff (start.explored read), read.ends_iff start, Closed.ends_cons_iff closed, later]
    simp [or_assoc]

/-- A text has a match just if the program of the expression has a way to its end from some place of
    the text. -/
theorem isMatch_iff_ends {r : Regex} : r.isMatch text = true ↔
    ∃ s, s <:+ text ∧ Ends r.program.toArray text 0 s := by
  have front : decide (text = text) = true := decide_eq_true rfl
  have start : Closed r.program.toArray (text = text) text.isEmpty nothing := closed_nothing
  have search : Explored r.program.toArray (text = text) text.isEmpty nothing [0]
      (nothing.reach r.program.toArray true text.isEmpty 0) := front ▸ explored_reach
  rw [isMatch, scan_iff (start.explored search) List.suffix_rfl, search.ends_iff start]
  refine Iff.trans ?_ exists_suffix_iff.symm
  simp

end DesignTokens.Regex
