import DesignTokens.Proofs.Pattern.Anchored
import DesignTokens.Text.Size

namespace DesignTokens.Regex

open Reached
open Text (byteSize)

def matchAt? (r : Regex) (text s : List Char) : Option (List Char) :=
  let program := r.program.toArray
  run program (nothing.reach program (s = text) s.isEmpty 0) none s

/-- What is left of a text where its first match begins, and where it ends. -/
def firstMatch? (r : Regex) (text : List Char) : List Char → Option (List Char × List Char)
  | [] => (r.matchAt? text []).map ([], ·)
  | c :: s => ((r.matchAt? text (c :: s)).map (c :: s, ·)).or (firstMatch? r text s)

/-- The bytes of a text at which its first match begins and ends. -/
def find? (r : Regex) (text : List Char) : Option (Nat × Nat) :=
  (r.firstMatch? text text).map fun (s, t) => (byteSize text - byteSize s, byteSize text - byteSize t)

variable {P : Array Step} {found : Reached} {best : Option (List Char)} {c : Char}
  {text s t rest : List Char} {r : Regex}

theorem kept_isSome (h : found.contains P.size = true ∨ best.isSome = true) :
    (if found.contains P.size then some s else best).isSome = true := by
  split
  · rfl
  · next unmatched => exact h.resolve_left unmatched

theorem run_isSome (h : found.contains P.size = true ∨ best.isSome = true) :
    (run P found best s).isSome = true := by
  induction s generalizing found best with
  | nil =>
    rw [run]
    exact kept_isSome h
  | cons c s ih =>
    rw [run]
    split
    · exact kept_isSome h
    · exact ih (.inr (kept_isSome h))

theorem run_of_unmatched (unmatched : found.contains P.size = false)
    (going : P.size ∉ found.steps.toList) : run P found best (c :: s) =
      run P (Reached.read P c s.isEmpty found.steps.toList) best s := by
  by_cases none : found.steps.toList = []
  · rw [none, Reached.read, List.foldl_nil, run_nothing, run, unmatched, none]
    rfl
  · exact run_of_steps _ rfl none unmatched going

/-- A run finds a match just if one of the steps can come to the end. -/
theorem run_isSome_iff (closed : Closed P (s = text) s.isEmpty found) (inside : s <:+ text) :
    (run P found best s).isSome = true ↔
      best.isSome = true ∨ ∃ k, found.contains k = true ∧ Ends P text k s := by
  induction s generalizing found best with
  | nil =>
    rw [run, Closed.ends_nil_iff closed]
    split <;> simp_all
  | cons c s ih =>
    rw [Closed.ends_cons_iff closed]
    by_cases matched : found.contains P.size = true
    · simp [run_isSome (.inl matched), matched]
    · have going : P.size ∉ found.steps.toList := fun listed => matched ((closed.listed _).1 listed)
      have start : Closed P (decide (s = text)) s.isEmpty nothing := closed_nothing
      have read := explored_behind (P := P) inside found.steps.toList
      rw [run_of_unmatched (by simpa using matched) going,
        ih (start.explored read) ((List.suffix_cons c s).trans inside), read.ends_iff start]
      simp [matched]

theorem matchAt?_isSome_iff (inside : s <:+ text) :
    (r.matchAt? text s).isSome = true ↔ Ends r.program.toArray text 0 s := by
  have start : Closed r.program.toArray (s = text) s.isEmpty nothing := closed_nothing
  rw [matchAt?, run_isSome_iff (start.explored explored_reach) inside, explored_reach.ends_iff start]
  simp

theorem matchAt?_front (r : Regex) (text : List Char) : r.matchAt? text text = r.leading? text := by
  simp [matchAt?, leading?]

theorem firstMatch?_of_matchAt? (here : r.matchAt? text s = some t) :
    r.firstMatch? text s = some (s, t) := by
  cases s <;> simp [firstMatch?, here]

theorem firstMatch?_eq_some (h : r.firstMatch? text s = some (t, rest)) :
    t <:+ s ∧ r.matchAt? text t = some rest := by
  induction s with
  | nil =>
    obtain ⟨_, here, same⟩ := Option.map_eq_some_iff.1 h
    cases same
    exact ⟨List.suffix_rfl, here⟩
  | cons c s ih =>
    rcases Option.or_eq_some_iff.1 h with found | ⟨-, later⟩
    · obtain ⟨_, here, same⟩ := Option.map_eq_some_iff.1 found
      cases same
      exact ⟨List.suffix_rfl, here⟩
    · exact (ih later).imp_left (·.trans (List.suffix_cons c s))

theorem firstMatch?_isSome_iff (inside : s <:+ text) : (r.firstMatch? text s).isSome = true ↔
    ∃ t, t <:+ s ∧ Ends r.program.toArray text 0 t := by
  induction s with
  | nil => simp [firstMatch?, matchAt?_isSome_iff inside]
  | cons c s ih =>
    rw [exists_suffix_iff, exists_suffix_cons_iff,
      ← ih ((List.suffix_cons c s).trans inside), ← matchAt?_isSome_iff inside, firstMatch?]
    simp

theorem isMatch_eq_find? (r : Regex) (text : List Char) : r.isMatch text = (r.find? text).isSome := by
  rw [Bool.eq_iff_iff, isMatch_iff_ends, find?, Option.isSome_map,
    firstMatch?_isSome_iff List.suffix_rfl]

/-- There is a match at the front of a text just if the first match begins there, and it ends where
    this one does. -/
theorem leading?_eq_find? (r : Regex) (text : List Char) :
    ((r.find? text).filter (·.1 = 0)).map (·.2) =
      (r.leading? text).map (byteSize text - byteSize ·) := by
  rw [find?, ← matchAt?_front]
  cases here : r.matchAt? text text with
  | some t => simp [firstMatch?_of_matchAt? here]
  | none =>
    rw [Option.map_none, Option.map_eq_none_iff, Option.filter_eq_none_iff]
    intro bounds found first
    obtain ⟨⟨s, t⟩, place, rfl⟩ := Option.map_eq_some_iff.1 found
    obtain ⟨⟨before, rfl⟩, there⟩ := firstMatch?_eq_some place
    -- What stands before the first match is some characters, and these have bytes.
    have ne : before ≠ [] := by
      rintro rfl
      exact Option.some_ne_none t (there.symm.trans here)
    have size : byteSize (before ++ s) - byteSize s = 0 := of_decide_eq_true first
    have pos := Text.byteSize_pos ne
    rw [Text.byteSize_append] at size
    omega

theorem isMatch_of_leading? (h : r.leading? text = some rest) : r.isMatch text = true := by
  have found := r.leading?_eq_find? text
  rw [isMatch_eq_find?]
  cases first : r.find? text with
  | none => simp [first, h] at found
  | some bounds => rfl

end DesignTokens.Regex
