import DesignTokens.Theme.Section
import Mathlib.Data.List.Nodup

/-!
Claiming one after the other is a choice of owners. Several claimants take in turn what they select
from what those before them have left; so each declaration falls to the first claimant that selects
it.
-/

namespace DesignTokens

section

variable {ι : Type} {claims before after : List (ι × Matcher)}

/-- The first of several claimants whose matcher selects a declaration. -/
def owner? (claims : List (ι × Matcher)) (d : Declaration) : Option ι :=
  (claims.find? fun claim => d.isSelectedBy claim.2).map Prod.fst

def unclaimed (claims : List (ι × Matcher)) (ds : List Declaration) : List Declaration :=
  ds.filter fun d => owner? claims d = none

theorem unclaimed_nil (ds : List Declaration) : unclaimed ([] : List (ι × Matcher)) ds = ds := by
  simp [unclaimed, owner?]

theorem owner?_append (d : Declaration) :
    owner? (before ++ after) d = (owner? before d).or (owner? after d) := by
  rw [owner?, List.find?_append, Option.map_or]
  rfl

theorem owner?_singleton (i : ι) (m : Matcher) (d : Declaration) :
    owner? [(i, m)] d = if d.isSelectedBy m then some i else none := by
  cases selected : d.isSelectedBy m <;> simp [owner?, selected]

theorem owner?_mem {d : Declaration} {i : ι} (h : owner? claims d = some i) :
    i ∈ claims.map Prod.fst := by
  obtain ⟨claim, found, rfl⟩ := Option.map_eq_some_iff.1 h
  exact List.mem_map_of_mem (List.mem_of_find?_eq_some found)

theorem owner?_of_selects_iff {d : Declaration} {i : ι} (there : i ∈ claims.map Prod.fst)
    (only : ∀ claim ∈ claims, d.isSelectedBy claim.2 = true ↔ claim.1 = i) :
    owner? claims d = some i := by
  obtain ⟨⟨_, m⟩, present, rfl⟩ := List.mem_map.1 there
  have found : (claims.find? fun claim => d.isSelectedBy claim.2).isSome :=
    List.find?_isSome.2 ⟨_, present, (only _ present).2 rfl⟩
  obtain ⟨first, found⟩ := Option.isSome_iff_exists.1 found
  have selected : d.isSelectedBy first.2 = true := by simpa using List.find?_some found
  rw [owner?, found, Option.map_some, (only first (List.mem_of_find?_eq_some found)).1 selected]

end

variable {ι : Type} [DecidableEq ι] {before after : List (ι × Matcher)} {ds : List Declaration}

def shareOf (claims : List (ι × Matcher)) (ds : List Declaration) (i : ι) : List Declaration :=
  ds.filter fun d => owner? claims d = some i

theorem shareOf_append {i : ι} (later : i ∉ after.map Prod.fst) :
    shareOf (before ++ after) ds i = shareOf before ds i := by
  unfold shareOf
  congr 1
  funext d
  have other : owner? after d ≠ some i := fun h => later (owner?_mem h)
  rw [owner?_append]
  cases owner? before d <;> simp [other]

theorem claim_unclaimed {i : ι} (m : Matcher) (fresh : i ∉ before.map Prod.fst) :
    claim m (unclaimed before ds) =
      (shareOf (before ++ [(i, m)]) ds i, unclaimed (before ++ [(i, m)]) ds) := by
  rw [claim, List.partition_eq_filter_filter]
  simp only [unclaimed, shareOf, List.filter_filter]
  congr 2
  · funext d
    have other : owner? before d ≠ some i := fun h => fresh (owner?_mem h)
    rw [owner?_append, owner?_singleton]
    cases owned : owner? before d <;> cases d.isSelectedBy m <;> simp_all
  · funext d
    rw [owner?_append, owner?_singleton]
    cases owner? before d <;> cases selected : d.isSelectedBy m <;> simp [selected]

/-- Claiming in turn from what others have left gives each claimant what falls to it. -/
theorem claimAll_unclaimed (ds : List Declaration)
    (distinct : ((before ++ after).map Prod.fst).Nodup) :
    claimAll (after.map Prod.snd) (unclaimed before ds) =
      (after.map fun claim => shareOf (before ++ after) ds claim.1,
        unclaimed (before ++ after) ds) := by
  induction after generalizing before with
  | nil => simp [claimAll]
  | cons first rest ih =>
    obtain ⟨i, m⟩ := first
    have split : before ++ (i, m) :: rest = before ++ [(i, m)] ++ rest := by simp
    rw [split] at distinct ⊢
    have apart := List.nodup_append.1 (List.map_append ▸ distinct)
    have fresh : i ∉ before.map Prod.fst := by
      have front := List.nodup_append.1 (List.map_append ▸ apart.1)
      exact fun inside => front.2.2 i inside i (by simp) rfl
    have later : i ∉ rest.map Prod.fst := fun inside => apart.2.2 i (by simp) i inside rfl
    rw [List.map_cons, claimAll, claim_unclaimed m fresh]
    simp only [ih distinct, List.map_cons, shareOf_append later]

end DesignTokens
