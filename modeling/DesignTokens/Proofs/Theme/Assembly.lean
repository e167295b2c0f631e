import DesignTokens.Theme.Layout

namespace DesignTokens

theorem VariantBlock.issues_eq_nil_iff {first v : VariantBlock} :
    first.issues v = [] ↔ ∀ name, first.declares name = v.declares name := by
  unfold issues
  simp only [List.append_eq_nil_iff, List.map_eq_nil_iff, List.filter_eq_nil_iff,
    Bool.not_eq_true', Bool.not_eq_false]
  constructor
  · rintro ⟨missing, extra⟩ name
    rw [Bool.eq_iff_iff]
    simp only [declares, List.any_eq_true, decide_eq_true_iff] at missing extra ⊢
    constructor
    · rintro ⟨d, hd, rfl⟩
      exact missing d hd
    · rintro ⟨d, hd, rfl⟩
      exact extra d hd
  · intro same
    refine ⟨fun d hd => ?_, fun d hd => ?_⟩
    · rw [← same]
      exact List.any_eq_true.2 ⟨d, hd, decide_eq_true rfl⟩
    · rw [same]
      exact List.any_eq_true.2 ⟨d, hd, decide_eq_true rfl⟩

theorem checkUniform_eq_ok_iff {variants : List VariantBlock} : checkUniform variants = .ok () ↔
    ∀ v ∈ variants, ∀ w ∈ variants, ∀ name, v.declares name = w.declares name := by
  have silent : checkUniform variants = .ok () ↔ differences variants = [] := by
    unfold checkUniform
    split <;> simp_all
  rw [silent]
  cases variants with
  | nil => simp [differences]
  | cons first others =>
    simp only [differences, List.flatMap_eq_nil_iff, VariantBlock.issues_eq_nil_iff]
    constructor
    · intro same
      have all : ∀ v ∈ first :: others, ∀ name, first.declares name = v.declares name :=
        List.forall_mem_cons.2 ⟨fun _ => rfl, same⟩
      exact fun v hv w hw name => (all v hv name).symm.trans (all w hw name)
    · exact fun same v hv => same first (by simp) v (List.mem_cons_of_mem first hv)

theorem checkUniform_cases (variants : List VariantBlock) :
    checkUniform variants = .ok () ∨ ∃ issues, checkUniform variants = .error (.mismatch issues) := by
  unfold checkUniform
  split
  · exact .inl rfl
  · exact .inr ⟨_, rfl⟩

def Supplied (names : List String) : List SectionPlan → Prop
  | [] => True
  | .mapped mapping :: plans => Supplied (names ++ [mapping.name]) plans
  | .copied name source _ _ :: plans => source ∈ names ∧ Supplied (names ++ [name]) plans

theorem copySection_of_mem {built : List Section} {source : String} (name : String)
    (old new : Namespace) (h : source ∈ built.map Section.name) :
    ∃ made, copySection built name source old new = .ok made ∧ made.name = name := by
  obtain ⟨s, hs, rfl⟩ := List.mem_map.1 h
  have present : (built.find? (·.name = s.name)).isSome :=
    List.find?_isSome.2 ⟨s, hs, by simp⟩
  obtain ⟨found, there⟩ := Option.isSome_iff_exists.1 present
  rw [copySection, there]
  exact ⟨_, rfl, rfl⟩

theorem buildSections_of_supplied {plans : List SectionPlan} {built : List Section}
    (h : Supplied (built.map Section.name) plans) (pool : List Declaration) :
    ∃ made, buildSections built pool plans = .ok made := by
  induction plans generalizing built pool with
  | nil => exact ⟨_, rfl⟩
  | cons plan plans ih =>
    cases plan with
    | mapped mapping =>
      rw [buildSections]
      apply ih
      simpa [Supplied, Mapping.run] using h
    | copied name source old new =>
      obtain ⟨made, copied, named⟩ := copySection_of_mem name old new h.1
      rw [buildSections, copied]
      apply ih
      simpa [named] using h.2

namespace Layout

def colors (layout : Layout) (ds : List Declaration) : List (List (ColorGroup × List Declaration)) :=
  (runVariants layout.variants (claimAll layout.ignored ds).2).1

def pool (layout : Layout) (ds : List Declaration) : List Declaration :=
  (runVariants layout.variants (claimAll layout.ignored ds).2).2

def blocks (layout : Layout) (ds : List Declaration) : List VariantBlock :=
  (layout.variants.zip (layout.colors ds)).map fun (v, groups) => ⟨v.name, groups.flatMap Prod.snd⟩

def pointers (layout : Layout) (ds : List Declaration) : List Declaration :=
  ((layout.colors ds).head?.getD []).flatMap fun (group, items) => group.pointers items

theorem assemble_eq (layout : Layout) (ds : List Declaration) :
    layout.assemble ds = (checkUniform (layout.blocks ds)).bind fun _ =>
      (buildSections [] (layout.pool ds) layout.sections).bind fun made =>
        .ok ⟨layout.resets, layout.pointers ds, layout.blocks ds, made.1, made.2⟩ := rfl

/-- A layout succeeds if its variants are uniform and its sections can be built. -/
theorem assemble_eq_ok_iff {layout : Layout} {ds : List Declaration} {a : Assembly} :
    layout.assemble ds = .ok a ↔
      checkUniform (layout.blocks ds) = .ok () ∧ ∃ sections unbound,
        buildSections [] (layout.pool ds) layout.sections = .ok (sections, unbound) ∧
          a = ⟨layout.resets, layout.pointers ds, layout.blocks ds, sections, unbound⟩ := by
  rw [assemble_eq]
  cases checkUniform (layout.blocks ds) with
  | error e => simp [Except.bind]
  | ok _ =>
    cases buildSections [] (layout.pool ds) layout.sections with
    | error e => simp [Except.bind]
    | ok made =>
      obtain ⟨sections, unbound⟩ := made
      simp only [Except.bind, Except.ok.injEq, Prod.mk.injEq, true_and]
      constructor
      · rintro rfl
        exact ⟨sections, unbound, ⟨rfl, rfl⟩, rfl⟩
      · rintro ⟨_, _, ⟨rfl, rfl⟩, rfl⟩
        rfl

theorem assemble_of_error {layout : Layout} {ds : List Declaration} {e : ThemeError}
    (h : checkUniform (layout.blocks ds) = .error e) : layout.assemble ds = .error e := by
  rw [assemble_eq, h]
  rfl

theorem exists_of_map_eq_ok {layout : Layout} {ds : List Declaration} {α : Type} {f : Assembly → α}
    {x : α} (h : (layout.assemble ds).map f = .ok x) : ∃ a, layout.assemble ds = .ok a ∧ f a = x := by
  cases result : layout.assemble ds with
  | ok a =>
    rw [result] at h
    exact ⟨a, rfl, Except.ok.inj h⟩
  | error e =>
    rw [result] at h
    cases h

end Layout

end DesignTokens
