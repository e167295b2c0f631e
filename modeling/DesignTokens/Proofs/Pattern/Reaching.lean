import DesignTokens.Pattern.Program
import Mathlib.Data.Finset.Card
import Mathlib.Logic.Relation

/-!
The steps that a program comes to without reading. A program is searched in depth: a step that is
met for the first time is marked, and what it leads to is searched before anything else. When the
search is over, what is marked are the steps that can be reached, although no step was searched
twice.
-/

namespace DesignTokens.Regex

namespace Reached

@[simp] theorem contains_nothing (n : Nat) : nothing.contains n = false := by
  simp [contains, nothing]

@[simp] theorem contains_add (found : Reached) (k n : Nat) :
    (found.add k).contains n = (found.contains n || decide (n = k)) := by
  have bit : (1 <<< k).testBit n = decide (n = k) := by
    rw [Nat.one_shiftLeft, Nat.testBit_two_pow]
    exact decide_eq_decide.2 eq_comm
  simp [contains, add, bit]

@[simp] theorem steps_nothing : nothing.steps.toList = [] := rfl

@[simp] theorem steps_add (found : Reached) (k : Nat) :
    (found.add k).steps.toList = found.steps.toList ++ [k] := by
  simp [add]

end Reached

open Reached

def targets (P : Array Step) (front back : Bool) (k : Nat) : List Nat :=
  match P[k]? with
  | none | some (.one _) => []
  | some (.jump distance) => [(k + distance).toNat]
  | some (.fork first second) => [(k + first).toNat, (k + second).toNat]
  | some .atStart => if front then [k + 1] else []
  | some .atEnd => if back then [k + 1] else []

def Reaches (P : Array Step) (front back : Bool) : Nat → Nat → Prop :=
  Relation.ReflTransGen fun k n => n ∈ targets P front back k

variable {P : Array Step} {front back : Bool} {found found' found'' : Reached} {k n : Nat}
  {ks ls : List Nat}

theorem targets_of_size_le (h : P.size ≤ k) : targets P front back k = [] := by
  rw [targets, Array.getElem?_eq_none h]

theorem follow_succ (fuel : Nat) : follow P front back (fuel + 1) found k =
    if found.contains k then found
    else (targets P front back k).foldl (follow P front back fuel) (found.add k) := by
  rw [follow]
  split
  · rfl
  · unfold targets
    rcases P[k]? with _ | step
    · rfl
    · cases step with
      | one set => rfl
      | jump distance => rfl
      | fork first second => rfl
      | atStart => cases front <;> rfl
      | atEnd => cases back <;> rfl

def unmarked (P : Array Step) (found : Reached) : Nat :=
  ((Finset.range P.size).filter fun n => found.contains n = false).card

theorem unmarked_le (keeps : ∀ n, found.contains n = true → found'.contains n = true) :
    unmarked P found' ≤ unmarked P found := by
  apply Finset.card_le_card
  intro n
  simp only [Finset.mem_filter, Finset.mem_range, Bool.eq_false_iff]
  exact fun ⟨inside, fresh⟩ => ⟨inside, fun marked => fresh (keeps n marked)⟩

theorem unmarked_add (inside : k < P.size) (fresh : found.contains k = false) :
    unmarked P (found.add k) < unmarked P found := by
  apply Finset.card_lt_card
  rw [Finset.ssubset_iff_of_subset]
  · exact ⟨k, by simp [inside, fresh], by simp⟩
  · intro n
    simp only [Finset.mem_filter, contains_add, Bool.or_eq_false_iff]
    exact fun ⟨inside, fresh, _⟩ => ⟨inside, fresh⟩

/-- From `found` on, all that the starting points lead to has been searched. -/
structure Explored (P : Array Step) (front back : Bool) (found : Reached) (starts : List Nat)
    (found' : Reached) : Prop where
  keeps : ∀ n, found.contains n = true → found'.contains n = true
  reaches : ∀ n ∈ starts, found'.contains n = true
  only : ∀ n, found'.contains n = true →
    found.contains n = true ∨ ∃ k ∈ starts, Reaches P front back k n
  -- A step that was marked before may still wait for its turn.
  closes : ∀ n, found'.contains n = true →
    found.contains n = true ∨ ∀ l ∈ targets P front back n, found'.contains l = true
  listed : (∀ n, n ∈ found.steps.toList ↔ found.contains n = true) →
    ∀ n, n ∈ found'.steps.toList ↔ found'.contains n = true

namespace Explored

theorem nil : Explored P front back found [] found :=
  ⟨fun _ h => h, by simp, fun _ h => .inl h, fun _ h => .inl h, fun h => h⟩

theorem append (h : Explored P front back found ks found')
    (h' : Explored P front back found' ls found'') :
    Explored P front back found (ks ++ ls) found'' where
  keeps := fun n hn => h'.keeps n (h.keeps n hn)
  reaches := by
    intro n hn
    rcases List.mem_append.1 hn with hn | hn
    · exact h'.keeps n (h.reaches n hn)
    · exact h'.reaches n hn
  only := by
    intro n hn
    rcases h'.only n hn with before | ⟨k, hk, reached⟩
    · rcases h.only n before with first | ⟨k, hk, reached⟩
      · exact .inl first
      · exact .inr ⟨k, List.mem_append_left ls hk, reached⟩
    · exact .inr ⟨k, List.mem_append_right ks hk, reached⟩
  closes := by
    intro n hn
    rcases h'.closes n hn with before | closed
    · exact (h.closes n before).imp_right fun closed l hl => h'.keeps l (closed l hl)
    · exact .inr closed
  listed := fun start => h'.listed (h.listed start)

theorem known (marked : found.contains k = true) : Explored P front back found [k] found :=
  ⟨fun _ h => h, by simpa using marked, fun _ h => .inl h, fun _ h => .inl h, fun h => h⟩

theorem enter (h : Explored P front back (found.add k) (targets P front back k) found') :
    Explored P front back found [k] found' where
  keeps := fun n hn => h.keeps n (by simp [hn])
  reaches := by
    intro n hn
    exact h.keeps n (by simp [List.mem_singleton.1 hn])
  only := by
    intro n hn
    rcases h.only n hn with added | ⟨l, hl, reached⟩
    · rw [contains_add, Bool.or_eq_true, decide_eq_true_iff] at added
      rcases added with before | rfl
      · exact .inl before
      · exact .inr ⟨n, by simp, .refl⟩
    · exact .inr ⟨k, by simp, reached.head hl⟩
  closes := by
    intro n hn
    rcases h.closes n hn with added | closed
    · rw [contains_add, Bool.or_eq_true, decide_eq_true_iff] at added
      rcases added with before | rfl
      · exact .inl before
      · exact .inr h.reaches
    · exact .inr closed
  listed := fun start => h.listed fun n => by simp [start]

theorem foldl {search : Reached → Nat → Reached} {starts : Nat → List Nat}
    (h : ∀ now, (∀ n, found.contains n = true → now.contains n = true) → ∀ k ∈ ks,
      Explored P front back now (starts k) (search now k)) :
    Explored P front back found (ks.flatMap starts) (ks.foldl search found) := by
  induction ks generalizing found with
  | nil => exact nil
  | cons k ks ih =>
    have first := h found (fun _ hn => hn) k (by simp)
    rw [List.flatMap_cons, List.foldl_cons]
    refine first.append (ih fun now keeps l hl => ?_)
    exact h now (fun n hn => keeps n (first.keeps n hn)) l (List.mem_cons_of_mem k hl)

end Explored

theorem explored_follow (fuel : Nat) (enough : unmarked P found < fuel) :
    Explored P front back found [k] (follow P front back fuel found k) := by
  induction fuel generalizing found k with
  | zero => omega
  | succ fuel ih =>
    rw [follow_succ]
    split
    · next marked => exact .known marked
    · next fresh =>
      apply Explored.enter
      by_cases inside : k < P.size
      · have less := unmarked_add inside (by simpa using fresh)
        have search : Explored P front back (found.add k)
            ((targets P front back k).flatMap fun l => [l])
            ((targets P front back k).foldl (follow P front back fuel) (found.add k)) := by
          refine .foldl fun now keeps l _ => ih ?_
          have bound : unmarked P now ≤ unmarked P (found.add k) := unmarked_le keeps
          omega
        rwa [List.flatMap_singleton'] at search
      · rw [targets_of_size_le (by omega)]
        exact .nil

theorem explored_reach : Explored P front back found [k] (found.reach P front back k) := by
  apply explored_follow
  have bound : unmarked P found ≤ (Finset.range P.size).card := Finset.card_filter_le _ _
  rw [Finset.card_range] at bound
  omega

def advance (P : Array Step) (c : Char) (k : Nat) : List Nat :=
  match P[k]? with
  | some (.one set) => if set.contains c then [k + 1] else []
  | _ => []

theorem mem_advance {c : Char} : n ∈ advance P c k ↔
    ∃ set, P[k]? = some (.one set) ∧ set.contains c = true ∧ n = k + 1 := by
  rw [advance]
  split
  · next set here => simp [here]
  · next other =>
    simp only [List.not_mem_nil, false_iff]
    rintro ⟨set, here, -⟩
    exact other set here

theorem explored_read (c : Char) (steps : List Nat) :
    Explored P false back nothing (steps.flatMap (advance P c)) (Reached.read P c back steps) := by
  refine .foldl fun now _ k _ => ?_
  rw [readAt, advance]
  rcases P[k]? with _ | step
  · exact .nil
  · cases step with
    | one set =>
      dsimp only
      split
      · exact explored_reach
      · exact .nil
    | _ => exact .nil

structure Closed (P : Array Step) (front back : Bool) (found : Reached) : Prop where
  listed : ∀ n, n ∈ found.steps.toList ↔ found.contains n = true
  closed : ∀ n, found.contains n = true → ∀ l ∈ targets P front back n, found.contains l = true

theorem closed_nothing : Closed P front back nothing := ⟨by simp, by simp⟩

namespace Closed

theorem reaches (h : Closed P front back found) (marked : found.contains k = true)
    (reached : Reaches P front back k n) : found.contains n = true := by
  induction reached with
  | refl => exact marked
  | tail _ next ih => exact h.closed _ ih _ next

theorem explored (h : Closed P front back found) (search : Explored P front back found ks found') :
    Closed P front back found' := by
  refine ⟨search.listed h.listed, fun n hn => ?_⟩
  rcases search.closes n hn with before | closed
  · exact fun l hl => search.keeps l (h.closed n before l hl)
  · exact closed

/-- A search that is over has marked what can be reached, and nothing else. -/
theorem contains_iff (h : Closed P front back found)
    (search : Explored P front back found ks found') : found'.contains n = true ↔
      found.contains n = true ∨ ∃ k ∈ ks, Reaches P front back k n := by
  constructor
  · exact search.only n
  · rintro (before | ⟨k, hk, reached⟩)
    · exact search.keeps n before
    · exact (h.explored search).reaches (search.reaches k hk) reached

end Closed

end DesignTokens.Regex
