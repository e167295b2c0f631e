import DesignTokens.Proofs.Pattern.Search

namespace DesignTokens.Regex

open Relation (Comp)

def Turns (R : List Char → List Char → Prop) : Nat → List Char → List Char → Prop
  | 0 => Eq
  | n + 1 => Comp R (Turns R n)

/-- With `s` left of a text, an expression can match what stands in front of `t`. -/
def Matches (text : List Char) : Regex → List Char → List Char → Prop
  | empty => Eq
  | one set => fun s t => ∃ c, set.contains c = true ∧ s = c :: t
  | atStart => fun s t => s = text ∧ s = t
  | atEnd => fun s t => s = [] ∧ s = t
  | group _ a => Matches text a
  | seq a b => Comp (Matches text a) (Matches text b)
  | alt a b => fun s t => Matches text a s t ∨ Matches text b s t
  | repeated a least most _ => fun s t =>
    ∃ n, least ≤ n ∧ (∀ m ∈ most, n ≤ max least m) ∧ Turns (Matches text a) n s t

variable {P : Array Step} {k l n : Nat} {c : Char} {text s t : List Char} {step : Step}
  {a b steps : List Step} {R S : List Char → List Char → Prop} {greedy : Bool} {x y : Int}
  {front back : Bool}

theorem turns_one : Turns R 1 s t ↔ R s t := by
  simp [Turns, Comp]

theorem turns_add (m n : Nat) : Turns R (m + n) s t ↔ ∃ u, Turns R m s u ∧ Turns R n u t := by
  induction m generalizing s with
  | zero => simp [Turns]
  | succ m ih =>
    rw [Nat.add_right_comm]
    constructor
    · rintro ⟨u, first, rest⟩
      obtain ⟨v, before, after⟩ := ih.1 rest
      exact ⟨v, ⟨u, first, before⟩, after⟩
    · rintro ⟨v, ⟨u, first, before⟩, after⟩
      exact ⟨u, first, ih.2 ⟨v, before, after⟩⟩

def Stands (P : Array Step) (k : Nat) (steps : List Step) : Prop :=
  ∀ i (h : i < steps.length), P[k + i]? = some steps[i]

namespace Stands

theorem head (h : Stands P k (step :: steps)) : P[k]? = some step := h 0 (by simp)

theorem tail (h : Stands P k (step :: steps)) : Stands P (k + 1) steps := by
  intro i hi
  have there := h (i + 1) (by simpa using hi)
  rwa [Nat.add_assoc, Nat.add_comm 1 i]

theorem left (h : Stands P k (a ++ b)) : Stands P k a := by
  intro i hi
  have there := h i (by simp; omega)
  rwa [List.getElem_append_left hi] at there

theorem right (h : Stands P k (a ++ b)) : Stands P (k + a.length) b := by
  intro i hi
  have there := h (a.length + i) (by simpa using hi)
  rw [List.getElem_append_right (Nat.le_add_right _ _)] at there
  simpa [Nat.add_assoc] using there

end Stands

theorem stands_toArray (before steps after : List Step) :
    Stands (before ++ (steps ++ after)).toArray before.length steps := by
  intro i hi
  rw [List.getElem?_toArray, List.getElem?_append_right (Nat.le_add_right _ _),
    Nat.add_sub_cancel_left, List.getElem?_append_left hi, List.getElem?_eq_getElem hi]

theorem stands_self (steps : List Step) : Stands steps.toArray 0 steps := by
  have whole := stands_toArray [] steps []
  rwa [List.nil_append, List.append_nil] at whole

theorem Arrives.move (h : Arrives P text n k s) (here : P[k]? = some step) : ∃ m < n,
    (∃ l ∈ targets P (s = text) s.isEmpty k, Arrives P text m l s) ∨
      ∃ c t, s = c :: t ∧ ∃ l ∈ advance P c k, Arrives P text m l t := by
  cases h with
  | done => simp at here
  | silent next rest => exact ⟨_, Nat.lt_succ_self _, .inl ⟨_, next, rest⟩⟩
  | read next rest => exact ⟨_, Nat.lt_succ_self _, .inr ⟨_, _, rfl, _, next, rest⟩⟩

theorem Arrives.silent_move (h : Arrives P text n k s) (here : P[k]? = some step)
    (silent : ∀ set, step ≠ .one set) :
    ∃ m < n, ∃ l ∈ targets P (s = text) s.isEmpty k, Arrives P text m l s := by
  obtain ⟨m, less, next | ⟨c, t, -, l, next, -⟩⟩ := h.move here
  · exact ⟨m, less, next⟩
  · obtain ⟨set, reads, -⟩ := mem_advance.1 next
    exact absurd (Option.some.inj (here.symm.trans reads)) (silent set)

theorem mem_targets_choose (here : P[k]? = some (.choose greedy x y)) :
    l ∈ targets P front back k ↔ l = (k + x).toNat ∨ l = (k + y).toNat := by
  cases greedy <;> simp [targets, here, Step.choose, or_comm]

theorem choose_ne_one (set : CharSet) : Step.choose greedy x y ≠ .one set := by
  cases greedy <;> nofun

theorem mem_targets_jump (here : P[k]? = some (.jump x)) :
    l ∈ targets P front back k ↔ l = (k + x).toNat := by
  simp [targets, here]

/-- Wherever the steps stand in a program, a way through them takes from a text what the relation
    says. No such way is longer than what it is a part of, so ways may be followed round a loop. -/
structure Carries (text : List Char) (steps : List Step) (R : List Char → List Char → Prop) :
    Prop where
  sound : ∀ {P k s n}, Stands P k steps → Arrives P text n k s →
    ∃ t, R s t ∧ ∃ m ≤ n, Arrives P text m (k + steps.length) t
  complete : ∀ {P k s t}, Stands P k steps → R s t → Ends P text (k + steps.length) t →
    Ends P text k s

theorem Carries.congr (h : Carries text steps R) (same : ∀ s t, R s t ↔ S s t) :
    Carries text steps S where
  sound := fun there way => by
    obtain ⟨t, related, rest⟩ := h.sound there way
    exact ⟨t, (same _ t).1 related, rest⟩
  complete := fun there related => h.complete there ((same _ _).2 related)

theorem carries_nil : Carries text [] Eq where
  sound := fun {_ _ s n} _ way => ⟨s, rfl, n, le_rfl, way⟩
  complete := by
    rintro P k s _ - rfl rest
    exact rest

theorem carries_one (set : CharSet) :
    Carries text [.one set] fun s t => ∃ c, set.contains c = true ∧ s = c :: t where
  sound := by
    intro P k s n there way
    obtain ⟨m, less, ⟨l, next, -⟩ | ⟨c, t, rfl, l, next, rest⟩⟩ := way.move there.head
    · simp [targets, there.head] at next
    · obtain ⟨_, here, member, rfl⟩ := mem_advance.1 next
      cases Option.some.inj (there.head.symm.trans here)
      exact ⟨t, ⟨c, member, rfl⟩, m, less.le, rest⟩
  complete := by
    rintro P k _ t there ⟨c, member, rfl⟩ rest
    exact rest.read (mem_advance.2 ⟨set, there.head, member, rfl⟩)

theorem carries_atStart : Carries text [.atStart] fun s t => s = text ∧ s = t where
  sound := by
    intro P k s n there way
    obtain ⟨m, less, l, next, rest⟩ := way.silent_move there.head nofun
    simp only [targets, there.head] at next
    split at next
    · next start =>
      obtain rfl := List.mem_singleton.1 next
      exact ⟨s, ⟨of_decide_eq_true start, rfl⟩, m, less.le, rest⟩
    · cases next
  complete := by
    rintro P k s _ there ⟨start, rfl⟩ rest
    exact rest.silent (by simp [targets, there.head, start])

theorem carries_atEnd : Carries text [.atEnd] fun s t => s = [] ∧ s = t where
  sound := by
    intro P k s n there way
    obtain ⟨m, less, l, next, rest⟩ := way.silent_move there.head nofun
    simp only [targets, there.head] at next
    split at next
    · next ended =>
      obtain rfl := List.mem_singleton.1 next
      exact ⟨s, ⟨List.isEmpty_iff.1 ended, rfl⟩, m, less.le, rest⟩
    · cases next
  complete := by
    rintro P k s _ there ⟨rfl, rfl⟩ rest
    exact rest.silent (by simp [targets, there.head])

theorem Carries.append (ha : Carries text a R) (hb : Carries text b S) :
    Carries text (a ++ b) (Comp R S) where
  sound := by
    intro P k s n there way
    obtain ⟨u, first, m, less, way⟩ := ha.sound there.left way
    obtain ⟨t, second, j, less', way⟩ := hb.sound there.right way
    refine ⟨t, ⟨u, first, second⟩, j, less'.trans less, ?_⟩
    rwa [List.length_append, ← Nat.add_assoc]
  complete := by
    rintro P k s t there ⟨u, first, second⟩ rest
    rw [List.length_append, ← Nat.add_assoc] at rest
    exact ha.complete there.left first (hb.complete there.right second rest)

theorem Stands.either (h : Stands P k (Step.either a b)) :
    P[k]? = some (.choose true 1 (a.length + 2)) ∧ Stands P (k + 1) a ∧
      P[k + 1 + a.length]? = some (.jump (b.length + 1)) ∧ Stands P (k + a.length + 2) b := by
  have jump := h.right.head
  rw [List.length_cons, Nat.add_comm a.length, ← Nat.add_assoc] at jump
  exact ⟨h.left.head, h.left.tail, jump, h.right.tail⟩

theorem Carries.either (ha : Carries text a R) (hb : Carries text b S) :
    Carries text (Step.either a b) fun s t => R s t ∨ S s t := by
  have behind : (Step.either a b).length = a.length + b.length + 2 := by
    simp [Step.either]
    omega
  constructor
  · intro P k s n there way
    rw [behind]
    obtain ⟨fork, left, jump, right⟩ := there.either
    obtain ⟨m, less, l, next, way⟩ := way.silent_move fork choose_ne_one
    rcases (mem_targets_choose fork).1 next with first | second
    · obtain rfl : l = k + 1 := by omega
      obtain ⟨t, related, j, less', way⟩ := ha.sound left way
      obtain ⟨i, less'', l, next, way⟩ := way.silent_move jump nofun
      rw [mem_targets_jump jump] at next
      obtain rfl : l = k + (a.length + b.length + 2) := by omega
      exact ⟨t, .inl related, i, by omega, way⟩
    · obtain rfl : l = k + a.length + 2 := by omega
      obtain ⟨t, related, j, less', way⟩ := hb.sound right way
      rw [show k + a.length + 2 + b.length = k + (a.length + b.length + 2) by omega] at way
      exact ⟨t, .inr related, j, by omega, way⟩
  · rintro P k s t there related rest
    rw [behind] at rest
    obtain ⟨fork, left, jump, right⟩ := there.either
    rcases related with related | related
    · have next : k + (a.length + b.length + 2) ∈
          targets P (t = text) t.isEmpty (k + 1 + a.length) := by
        rw [mem_targets_jump jump]
        omega
      exact .silent ((mem_targets_choose fork).2 (.inl (by omega)))
        (ha.complete left related (rest.silent next))
    · rw [show k + (a.length + b.length + 2) = k + a.length + 2 + b.length by omega] at rest
      exact .silent ((mem_targets_choose fork).2 (.inr (by omega))) (hb.complete right related rest)

theorem Carries.optional (ha : Carries text a R) :
    Carries text (Step.optional greedy a) fun s t => s = t ∨ R s t := by
  have behind : (Step.optional greedy a).length = a.length + 1 := rfl
  constructor
  · intro P k s n there way
    rw [behind]
    obtain ⟨m, less, l, next, way⟩ := way.silent_move there.head choose_ne_one
    rcases (mem_targets_choose there.head).1 next with more | done
    · obtain rfl : l = k + 1 := by omega
      obtain ⟨t, related, j, less', way⟩ := ha.sound there.tail way
      rw [Nat.add_assoc, Nat.add_comm 1] at way
      exact ⟨t, .inr related, j, by omega, way⟩
    · obtain rfl : l = k + (a.length + 1) := by omega
      exact ⟨s, .inl rfl, m, by omega, way⟩
  · intro P k s t there related rest
    rw [behind] at rest
    rcases related with rfl | related
    · exact rest.silent ((mem_targets_choose there.head).2 (.inr (by omega)))
    · rw [Nat.add_comm a.length, ← Nat.add_assoc] at rest
      exact .silent ((mem_targets_choose there.head).2 (.inl (by omega)))
        (ha.complete there.tail related rest)

theorem Carries.plus (ha : Carries text a R) :
    Carries text (Step.plus greedy a) fun s t => ∃ n, Turns R (n + 1) s t := by
  have behind : (Step.plus greedy a).length = a.length + 1 := by simp [Step.plus]
  constructor
  · intro P k s n there way
    rw [behind]
    induction n using Nat.strong_induction_on generalizing s with
    | _ n ih =>
      have fork := there.right.head
      obtain ⟨u, related, m, less, way⟩ := ha.sound there.left way
      obtain ⟨j, less', l, next, way⟩ := way.silent_move fork choose_ne_one
      rcases (mem_targets_choose fork).1 next with again | done
      · have front : l = k := by omega
        rw [front] at way
        obtain ⟨t, ⟨turns, rest⟩, i, less'', way⟩ := ih j (by omega) way
        exact ⟨t, ⟨turns + 1, u, related, rest⟩, i, by omega, way⟩
      · obtain rfl : l = k + (a.length + 1) := by omega
        exact ⟨u, ⟨0, turns_one.2 related⟩, j, by omega, way⟩
  · rintro P k s t there ⟨turns, related⟩ rest
    rw [behind] at rest
    have fork := there.right.head
    induction turns generalizing s with
    | zero =>
      refine ha.complete there.left (turns_one.1 related) (rest.silent ?_)
      exact (mem_targets_choose fork).2 (.inr (by omega))
    | succ turns ih =>
      obtain ⟨u, first, related⟩ := related
      refine ha.complete there.left first (.silent ?_ (ih related))
      exact (mem_targets_choose fork).2 (.inl (by omega))

theorem Stands.star (h : Stands P k (Step.star greedy a)) :
    P[k]? = some (.choose greedy 1 (a.length + 2)) ∧ Stands P (k + 1) a ∧
      P[k + 1 + a.length]? = some (.jump (-(a.length + 1))) := by
  have jump := h.right.head
  rw [List.length_cons, Nat.add_comm a.length, ← Nat.add_assoc] at jump
  exact ⟨h.left.head, h.left.tail, jump⟩

theorem Carries.star (ha : Carries text a R) :
    Carries text (Step.star greedy a) fun s t => ∃ n, Turns R n s t := by
  have behind : (Step.star greedy a).length = a.length + 2 := by simp [Step.star]
  constructor
  · intro P k s n there way
    rw [behind]
    obtain ⟨fork, inner, jump⟩ := there.star
    induction n using Nat.strong_induction_on generalizing s with
    | _ n ih =>
      obtain ⟨m, less, l, next, way⟩ := way.silent_move fork choose_ne_one
      rcases (mem_targets_choose fork).1 next with more | done
      · obtain rfl : l = k + 1 := by omega
        obtain ⟨u, related, j, less', way⟩ := ha.sound inner way
        obtain ⟨i, less'', l, next, way⟩ := way.silent_move jump nofun
        rw [mem_targets_jump jump] at next
        have front : l = k := by omega
        rw [front] at way
        obtain ⟨t, ⟨turns, rest⟩, h, bound, way⟩ := ih i (by omega) way
        exact ⟨t, ⟨turns + 1, u, related, rest⟩, h, by omega, way⟩
      · obtain rfl : l = k + (a.length + 2) := by omega
        exact ⟨s, ⟨0, rfl⟩, m, by omega, way⟩
  · rintro P k s t there ⟨turns, related⟩ rest
    rw [behind] at rest
    obtain ⟨fork, inner, jump⟩ := there.star
    induction turns generalizing s with
    | zero =>
      obtain rfl : s = t := related
      exact rest.silent ((mem_targets_choose fork).2 (.inr (by omega)))
    | succ turns ih =>
      obtain ⟨u, first, related⟩ := related
      refine .silent ((mem_targets_choose fork).2 (.inl (by omega)))
        (ha.complete inner first (.silent ?_ (ih related)))
      rw [mem_targets_jump jump]
      omega

theorem Carries.times (ha : Carries text a R) (n : Nat) :
    Carries text (Step.times a n) (Turns R n) := by
  induction n with
  | zero => exact carries_nil
  | succ n ih =>
    have unfolded : Step.times a (n + 1) = a ++ Step.times a n := rfl
    rw [unfolded]
    exact ha.append ih

theorem Carries.upTo (ha : Carries text a R) (n : Nat) :
    Carries text (Step.upTo greedy a n) fun s t => ∃ m ≤ n, Turns R m s t := by
  induction n with
  | zero =>
    refine carries_nil.congr fun s t => ?_
    simp [Turns]
  | succ n ih =>
    refine (ha.append ih).optional.congr fun s t => ?_
    constructor
    · rintro (rfl | ⟨u, first, m, less, rest⟩)
      · exact ⟨0, by omega, rfl⟩
      · exact ⟨m + 1, by omega, u, first, rest⟩
    · rintro ⟨m, less, turns⟩
      cases m with
      | zero => exact .inl turns
      | succ m =>
        obtain ⟨u, first, rest⟩ := turns
        exact .inr ⟨u, first, m, by omega, rest⟩

/-- The program of an expression matches what the expression does. -/
theorem carries_program (text : List Char) (r : Regex) :
    Carries text r.program (Matches text r) := by
  induction r with
  | empty => exact carries_nil
  | one set => exact carries_one set
  | atStart => exact carries_atStart
  | atEnd => exact carries_atEnd
  | group _ a ih => exact ih
  | seq a b iha ihb => exact iha.append ihb
  | alt a b iha ihb => exact iha.either ihb
  | repeated a least most greedy ih =>
    cases most with
    | some most =>
      refine ((ih.times least).append (ih.upTo (most - least))).congr fun s t => ?_
      constructor
      · rintro ⟨u, front, m, bound, back⟩
        exact ⟨least + m, by omega, by simp; omega, (turns_add least m).2 ⟨u, front, back⟩⟩
      · rintro ⟨n, enough, bound, turns⟩
        obtain ⟨m, rfl⟩ := Nat.exists_eq_add_of_le enough
        obtain ⟨u, front, back⟩ := (turns_add least m).1 turns
        have limit := bound most rfl
        exact ⟨u, front, m, by omega, back⟩
    | none =>
      cases least with
      | zero =>
        rw [program]
        split
        · refine ih.star.congr fun s t => ?_
          simp [Matches]
        · refine ih.plus.optional.congr fun s t => ?_
          constructor
          · rintro (rfl | ⟨n, turns⟩)
            · exact ⟨0, by simp, by simp, rfl⟩
            · exact ⟨n + 1, by simp, by simp, turns⟩
          · rintro ⟨n, -, -, turns⟩
            cases n with
            | zero => exact .inl turns
            | succ n => exact .inr ⟨n, turns⟩
      | succ least =>
        refine ((ih.times least).append ih.plus).congr fun s t => ?_
        constructor
        · rintro ⟨u, front, n, back⟩
          exact ⟨least + (n + 1), by omega, by simp, (turns_add least (n + 1)).2 ⟨u, front, back⟩⟩
        · rintro ⟨n, enough, -, turns⟩
          obtain ⟨m, rfl⟩ := Nat.exists_eq_add_of_le enough
          rw [Nat.add_right_comm, Nat.add_assoc] at turns
          obtain ⟨u, front, back⟩ := (turns_add least (m + 1)).1 turns
          exact ⟨u, front, m, back⟩

/-- A search finds a match just if the expression matches somewhere in the text. -/
theorem isMatch_iff {r : Regex} : r.isMatch text = true ↔
    ∃ s, s <:+ text ∧ ∃ t, Matches text r s t := by
  have carried := carries_program text r
  have size : 0 + r.program.length = r.program.toArray.size := by simp
  rw [isMatch_iff_ends]
  refine exists_congr fun s => and_congr_right fun _ => ?_
  constructor
  · rintro ⟨n, way⟩
    obtain ⟨t, matched, -⟩ := carried.sound (stands_self _) way
    exact ⟨t, matched⟩
  · rintro ⟨t, matched⟩
    exact carried.complete (stands_self _) matched (size ▸ ⟨0, .done t⟩)

variable {r : Regex} {rs : List Regex}

theorem matches_all_cons : Matches text (all (r :: rs)) s t ↔
    ∃ u, Matches text r s u ∧ Matches text (all rs) u t := by
  cases rs with
  | nil => simp [all, Matches]
  | cons r' rs => rfl

theorem matches_all_append (as : List Regex) : Matches text (all (as ++ rs)) s t ↔
    ∃ u, Matches text (all as) s u ∧ Matches text (all rs) u t := by
  induction as generalizing s with
  | nil => simp [all, Matches]
  | cons a as ih =>
    simp only [List.cons_append, matches_all_cons, ih]
    constructor
    · rintro ⟨u, first, v, middle, last⟩
      exact ⟨v, ⟨u, first, middle⟩, last⟩
    · rintro ⟨v, ⟨u, first, middle⟩, last⟩
      exact ⟨u, first, v, middle, last⟩

theorem matches_factors (r : Regex) : Matches text (all r.factors) s t ↔ Matches text r s t := by
  induction r generalizing s t with
  | seq a b iha ihb =>
    rw [factors, matches_all_append]
    simp only [iha, ihb]
    rfl
  | _ => rfl

theorem matches_chars (word : String) :
    Matches text (all (chars word)) s t ↔ s = word.toList ++ t := by
  rw [chars]
  induction word.toList generalizing s with
  | nil => rfl
  | cons d word ih =>
    rw [List.map_cons, matches_all_cons]
    simp only [ih]
    constructor
    · rintro ⟨u, ⟨c, same, rfl⟩, rfl⟩
      rw [of_decide_eq_true same]
      rfl
    · rintro rfl
      exact ⟨word ++ t, ⟨d, decide_eq_true rfl, rfl⟩, rfl⟩

theorem matches_plus_one (set : CharSet) : Matches text (plus (one set)) s t ↔
    ∃ word, word ≠ [] ∧ (∀ c ∈ word, set.contains c = true) ∧ s = word ++ t := by
  have turns (n : Nat) : Turns (Matches text (one set)) n s t ↔
      ∃ word, word.length = n ∧ (∀ c ∈ word, set.contains c = true) ∧ s = word ++ t := by
    induction n generalizing s with
    | zero => simp [Turns]
    | succ n ih =>
      constructor
      · rintro ⟨u, ⟨c, member, rfl⟩, rest⟩
        obtain ⟨word, rfl, members, rfl⟩ := ih.1 rest
        exact ⟨c :: word, rfl, List.forall_mem_cons.2 ⟨member, members⟩, rfl⟩
      · rintro ⟨word, length, members, rfl⟩
        obtain ⟨c, word, rfl⟩ := List.exists_cons_of_length_eq_add_one length
        obtain ⟨member, members⟩ := List.forall_mem_cons.1 members
        exact ⟨word ++ t, ⟨c, member, rfl⟩, ih.2 ⟨word, by simpa using length, members, rfl⟩⟩
  constructor
  · rintro ⟨n, some, -, taken⟩
    obtain ⟨word, rfl, members, rfl⟩ := (turns n).1 taken
    exact ⟨word, List.ne_nil_of_length_pos some, members, rfl⟩
  · rintro ⟨word, ne, members, rfl⟩
    exact ⟨word.length, List.length_pos_iff.2 ne, by simp, (turns _).2 ⟨word, rfl, members, rfl⟩⟩

def opening : List Regex → List Char
  | atStart :: rs => opening rs
  | one (.single c) :: rs => c :: opening rs
  | _ => []

theorem opening_prefix (h : Matches text (all rs) s t) : opening rs <+: s := by
  fun_induction opening rs generalizing s with
  | case1 rs ih =>
    obtain ⟨u, ⟨-, rfl⟩, rest⟩ := matches_all_cons.1 h
    exact ih rest
  | case2 c rs ih =>
    obtain ⟨u, ⟨d, same, rfl⟩, rest⟩ := matches_all_cons.1 h
    rw [of_decide_eq_true same]
    exact List.cons_prefix_cons.2 ⟨rfl, ih rest⟩
  | case3 => exact List.nil_prefix

theorem prefix_of_isMatch {word : String}
    (h : (all (.atStart :: chars word ++ rs)).isMatch s = true) : word.toList <+: s := by
  obtain ⟨_, -, t, matched⟩ := isMatch_iff.1 h
  rw [List.cons_append, matches_all_cons] at matched
  obtain ⟨_, ⟨rfl, rfl⟩, rest⟩ := matched
  obtain ⟨u, characters, -⟩ := (matches_all_append _).1 rest
  rw [(matches_chars word).1 characters]
  exact List.prefix_append _ _

end DesignTokens.Regex
