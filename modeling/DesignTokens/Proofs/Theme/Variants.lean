import DesignTokens.Proofs.Theme.Assembly
import Mathlib.Data.List.Perm.Basic

namespace DesignTokens

section

variable {ms : List Matcher} {pool : List Declaration}

theorem claimAll_left (ms : List Matcher) (pool : List Declaration) :
    (claimAll ms pool).2 = pool.filter fun d => !ms.any d.isSelectedBy := by
  induction ms generalizing pool with
  | nil => simp [claimAll]
  | cons m ms ih =>
    rw [claimAll, claim, List.partition_eq_filter_filter]
    dsimp only
    rw [ih, List.filter_filter]
    refine List.filter_congr fun d _ => ?_
    simp [Bool.and_comm]

theorem claimAll_filter {p : Declaration → Bool}
    (kept : ∀ d ∈ pool, ms.any d.isSelectedBy = true → p d = true) :
    (claimAll ms (pool.filter p)).1 = (claimAll ms pool).1 := by
  induction ms generalizing pool with
  | nil => rfl
  | cons m ms ih =>
    simp only [claimAll, claim, List.partition_eq_filter_filter]
    have share : (pool.filter p).filter (·.isSelectedBy m) = pool.filter (·.isSelectedBy m) := by
      rw [List.filter_filter]
      refine List.filter_congr fun d hd => ?_
      have := kept d hd
      simp only [List.any_cons, Bool.or_eq_true] at this
      cases selected : d.isSelectedBy m <;> simp_all
    have others : (pool.filter p).filter (not ∘ (·.isSelectedBy m)) =
        (pool.filter (not ∘ (·.isSelectedBy m))).filter p := by
      rw [List.filter_filter, List.filter_filter]
      simp only [Bool.and_comm]
    rw [share, others, ih]
    intro d hd selected
    exact kept d (List.mem_filter.1 hd).1 (by simp [selected])

/-- What falls to each claimant, taken together, is what the first claimant that selects a
    declaration makes of it. -/
theorem claimAll_perm {α : Type} (select : α → Matcher) (xs : List α) (pool : List Declaration) :
    ((xs.zip (claimAll (xs.map select) pool).1).flatMap fun (x, share) => share.map (x, ·)).Perm
      (pool.filterMap fun d => (xs.find? fun x => d.isSelectedBy (select x)).map (·, d)) := by
  induction xs generalizing pool with
  | nil => simp [claimAll]
  | cons x xs ih =>
    let first (d : Declaration) := (x :: xs).find? fun x => d.isSelectedBy (select x)
    have split := (List.filter_append_perm (·.isSelectedBy (select x)) pool).filterMap
      fun d => (first d).map (·, d)
    have mine : (pool.filter (·.isSelectedBy (select x))).filterMap (fun d => (first d).map (·, d)) =
        (pool.filter (·.isSelectedBy (select x))).map (x, ·) := by
      rw [← List.filterMap_eq_map]
      refine List.filterMap_congr fun d hd => ?_
      simp [first, (List.mem_filter.1 hd).2]
    have others : (pool.filter (!·.isSelectedBy (select x))).filterMap
          (fun d => (first d).map (·, d)) =
        (pool.filter (!·.isSelectedBy (select x))).filterMap fun d =>
          (xs.find? fun x => d.isSelectedBy (select x)).map (·, d) := by
      refine List.filterMap_congr fun d hd => ?_
      have unselected : d.isSelectedBy (select x) = false := by simpa using (List.mem_filter.1 hd).2
      simp [first, unselected]
    rw [List.filterMap_append, mine, others] at split
    refine List.Perm.trans ?_ split
    simp only [List.map_cons, claimAll, claim, List.partition_eq_filter_filter, List.zip_cons_cons,
      List.flatMap_cons]
    exact (ih _).append_left _

namespace Variant

variable {v : Variant}

def takes (v : Variant) (d : Declaration) : Bool :=
  (v.groups.map ColorGroup.select).any d.isSelectedBy

/-- A colour of the variant as it is called in scope, with the group that claims it. -/
def color? (v : Variant) (d : Declaration) : Option (ColorGroup × Declaration) :=
  (v.groups.find? fun group => d.isSelectedBy group.select).map
    fun group => (group, d.replaceStem group.strip group.scope)

def colors (v : Variant) (pool : List Declaration) : List (ColorGroup × Declaration) :=
  pool.filterMap v.color?

theorem color?_isSome (v : Variant) (d : Declaration) : (v.color? d).isSome = v.takes d := by
  rw [color?, Option.isSome_map, List.isSome_find?, takes, List.any_map]
  rfl

theorem run_left (v : Variant) (pool : List Declaration) :
    (v.run pool).2 = pool.filter (!v.takes ·) := claimAll_left _ pool

theorem run_filter {p : Declaration → Bool} (kept : ∀ d ∈ pool, v.takes d = true → p d = true) :
    (v.run (pool.filter p)).1 = (v.run pool).1 := by
  unfold run
  dsimp only
  rw [claimAll_filter kept]

theorem run_perm (v : Variant) (pool : List Declaration) :
    ((v.run pool).1.flatMap fun (group, items) => items.map (group, ·)).Perm (v.colors pool) := by
  have claimed := (claimAll_perm ColorGroup.select v.groups pool).map
    fun (group, d) => (group, d.replaceStem group.strip group.scope)
  rw [List.map_flatMap, List.map_filterMap] at claimed
  unfold run colors color?
  dsimp only
  rw [List.flatMap_map]
  simpa [ColorGroup.inScope, Function.comp_def] using claimed

end Variant

theorem runVariants_of_apart {vs : List Variant}
    (apart : vs.Pairwise fun v w => ∀ d ∈ pool, v.takes d = true → w.takes d = false) :
    runVariants vs pool =
      (vs.map fun v => (v.run pool).1, pool.filter fun d => !vs.any (·.takes d)) := by
  induction vs generalizing pool with
  | nil => simp [runVariants]
  | cons v vs ih =>
    obtain ⟨first, rest⟩ := List.pairwise_cons.1 apart
    have kept : ∀ w ∈ vs, ∀ d ∈ pool, w.takes d = true → (!v.takes d) = true := by
      intro w hw d hd taken
      by_contra other
      have := first w hw d hd (by simpa using other)
      simp [taken] at this
    have below := rest.imp_of_mem fun {u w} _ _ h d (hd : d ∈ pool.filter (!v.takes ·)) =>
      h d (List.mem_filter.1 hd).1
    have alone : vs.map (fun w => (w.run (pool.filter (!v.takes ·))).1) =
        vs.map fun w => (w.run pool).1 :=
      List.map_congr_left fun w hw => Variant.run_filter (kept w hw)
    have left : (fun d => !vs.any (·.takes d) && !v.takes d) =
        fun d => !(v :: vs).any (·.takes d) := by
      funext d
      simp [Bool.and_comm]
    rw [runVariants]
    dsimp only
    rw [v.run_left, ih below, List.filter_filter, alone, left]
    rfl

namespace Variant

def block (v : Variant) (pool : List Declaration) : VariantBlock :=
  ⟨v.name, (v.run pool).1.flatMap Prod.snd⟩

theorem items_perm (v : Variant) (pool : List Declaration) :
    (v.block pool).items.Perm ((v.colors pool).map Prod.snd) := by
  have claimed := (v.run_perm pool).map Prod.snd
  rw [List.map_flatMap] at claimed
  unfold block
  simpa [Function.comp_def] using claimed

end Variant

end

namespace Layout

variable {layout : Layout} {ds : List Declaration}

def kept (layout : Layout) (ds : List Declaration) : List Declaration :=
  (claimAll layout.ignored ds).2

/-- No declaration is a colour of two variants. -/
def Apart (layout : Layout) (ds : List Declaration) : Prop :=
  layout.variants.Pairwise fun v w => ∀ d ∈ ds, v.takes d = true → w.takes d = false

def reversed (layout : Layout) : Layout := { layout with variants := layout.variants.reverse }

theorem mem_kept {d : Declaration} :
    d ∈ layout.kept ds ↔ d ∈ ds ∧ layout.ignored.any d.isSelectedBy = false := by
  rw [kept, claimAll_left]
  simp

theorem Apart.runVariants (apart : layout.Apart ds) :
    runVariants layout.variants (layout.kept ds) =
      (layout.variants.map fun v => (v.run (layout.kept ds)).1,
        (layout.kept ds).filter fun d => !layout.variants.any (·.takes d)) := by
  apply runVariants_of_apart
  exact List.Pairwise.imp (fun h d hd => h d (mem_kept.1 hd).1) apart

theorem Apart.colors (apart : layout.Apart ds) :
    layout.colors ds = layout.variants.map fun v => (v.run (layout.kept ds)).1 :=
  congrArg Prod.fst apart.runVariants

theorem Apart.pool (apart : layout.Apart ds) :
    layout.pool ds = (layout.kept ds).filter fun d => !layout.variants.any (·.takes d) :=
  congrArg Prod.snd apart.runVariants

theorem Apart.blocks (apart : layout.Apart ds) :
    layout.blocks ds = layout.variants.map (·.block (layout.kept ds)) := by
  have paired : layout.variants.zip (layout.variants.map fun v => (v.run (layout.kept ds)).1) =
      layout.variants.map fun v => (v, (v.run (layout.kept ds)).1) := by
    rw [← List.zip_map', List.map_id']
  rw [Layout.blocks, apart.colors, paired, List.map_map]
  rfl

theorem Apart.reversed (apart : layout.Apart ds) : layout.reversed.Apart ds := by
  apply List.pairwise_reverse.2
  refine apart.imp fun h d hd taken => ?_
  by_contra other
  have := h d hd (by simpa using other)
  simp [taken] at this

theorem assemble_of_reversed (apart : layout.Apart ds) (supplied : Supplied [] layout.sections) :
    (∃ a b, layout.assemble ds = .ok a ∧ layout.reversed.assemble ds = .ok b ∧
      a.pointers = layout.pointers ds ∧ b.pointers = layout.reversed.pointers ds ∧
      b.resets = a.resets ∧ b.variants = a.variants.reverse ∧ b.sections = a.sections ∧
      b.unbound = a.unbound) ∨
    ∃ issues others, layout.assemble ds = .error (.mismatch issues) ∧
      layout.reversed.assemble ds = .error (.mismatch others) := by
  have blocks : layout.reversed.blocks ds = (layout.blocks ds).reverse := by
    rw [apart.reversed.blocks, apart.blocks]
    exact List.map_reverse
  have pool : layout.reversed.pool ds = layout.pool ds := by
    rw [apart.reversed.pool, apart.pool]
    refine List.filter_congr fun d _ => ?_
    simp [reversed]
  have start : Supplied (([] : List Section).map Section.name) layout.sections := supplied
  obtain ⟨⟨sections, unbound⟩, built⟩ := buildSections_of_supplied start (layout.pool ds)
  rcases checkUniform_cases (layout.blocks ds) with uniform | ⟨issues, failed⟩
  · have also : checkUniform (layout.reversed.blocks ds) = .ok () := by
      rw [blocks]
      apply checkUniform_eq_ok_iff.2
      simpa using checkUniform_eq_ok_iff.1 uniform
    left
    refine ⟨_, _, assemble_eq_ok_iff.2 ⟨uniform, _, _, built, rfl⟩,
      assemble_eq_ok_iff.2 ⟨also, _, _, pool ▸ built, rfl⟩, rfl, rfl, rfl, blocks, rfl, rfl⟩
  · right
    rcases checkUniform_cases (layout.reversed.blocks ds) with uniform | ⟨others, also⟩
    · have agreed : checkUniform (layout.blocks ds) = .ok () := by
        apply checkUniform_eq_ok_iff.2
        simpa [blocks] using checkUniform_eq_ok_iff.1 uniform
      rw [agreed] at failed
      cases failed
    · exact ⟨_, _, assemble_of_error failed, assemble_of_error also⟩

end Layout

end DesignTokens
