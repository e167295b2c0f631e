import DesignTokens.Proofs.Theme.Classification
import DesignTokens.Proofs.Theme.Exported
import DesignTokens.Proofs.Theme.Restemming
import DesignTokens.Theme.Standard
import Mathlib.Data.Nat.Find

namespace DesignTokens

open Declaration (Stem Core dropDashes)

variable {d e : Declaration}

namespace Mapping

variable (mapping : Mapping)

theorem name_modify (d : Declaration) : (mapping.modify d).name = d.name := by
  unfold modify
  induction mapping.modifiers generalizing d with
  | nil => rfl
  | cons m ms ih =>
    rw [List.foldl_cons, ih, Modifier.apply]
    split <;> rfl

theorem value_modify (same : d.value = e.value) :
    (mapping.modify d).value = (mapping.modify e).value := by
  unfold modify
  induction mapping.modifiers generalizing d e with
  | nil => exact same
  | cons m ms ih =>
    apply ih
    change (m.apply d).value = (m.apply e).value
    unfold Modifier.apply
    rw [same]
    split
    · exact same
    · rfl

theorem modify_mk (name : String) (d : Declaration) :
    mapping.modify ⟨name, d.value⟩ = ⟨name, (mapping.modify d).value⟩ := by
  have kept : (mapping.modify ⟨name, d.value⟩).name = name := mapping.name_modify _
  have value : (mapping.modify ⟨name, d.value⟩).value = (mapping.modify d).value :=
    mapping.value_modify rfl
  exact congrArg₂ Declaration.mk kept value

end Mapping

theorem Exported.exists_core (h : Exported d.name.toList) (m : Matcher) :
    ∃ core, (core = [] ∨ Core core) ∧ ∀ stem : String, Stem stem.toList →
      d.replaceStem m stem = ⟨.ofList (behind stem.toList core), d.value⟩ := by
  obtain ⟨core, name, spaced, noDash⟩ := h.core
  by_cases shorter : (m.strip d.name.toList).length < d.name.toList.length
  · have ink : ∀ c ∈ m.strip d.name.toList, Text.isBlank c = false :=
      fun c hc => h.not_blank c ((m.strip_suffix _).subset hc)
    have inner : Text.Trimmed (dropDashes (m.strip d.name.toList)) :=
      Declaration.inked_of_forall fun c hc => ink c ((List.dropWhile_sublist _).subset hc)
    have noDash := Declaration.head?_dropDashes (m.strip d.name.toList)
    exact ⟨_, inner.imp_right fun ink => ⟨noDash, ink.1, ink.2⟩,
      fun stem hs => Declaration.replaceStem_strip hs rfl shorter ink⟩
  · have inner : Text.Trimmed core := Declaration.inked_of_forall spaced.not_blank
    have whole : d.removeStem m = d := by
      have bound := (m.strip_suffix d.name.toList).length_le
      rw [Declaration.removeStem, if_pos]
      rw [← String.length_toList]
      omega
    refine ⟨core, inner.imp_right fun ink => ⟨noDash, ink.1, ink.2⟩, fun stem hs => ?_⟩
    rw [Declaration.replaceStem, whole, Declaration.addStem_core hs name noDash inner]

theorem Mapping.replaceStem_modify (mapping : Mapping) (h : Exported d.name.toList) (m : Matcher)
    (old new : Namespace) :
    (mapping.modify (d.replaceStem m old.stem)).replaceStem (.literal old.stem) new.stem =
      mapping.modify (d.replaceStem m new.stem) := by
  obtain ⟨core, inner, moved⟩ := h.exists_core m
  have put (n : Namespace) : mapping.modify (d.replaceStem m n.stem) =
      ⟨.ofList (behind n.stem.toList core), (mapping.modify d).value⟩ := by
    rw [moved _ n.stem_isStem, mapping.modify_mk]
  rw [put, put]
  exact Declaration.replaceStem_behind old.stem_isStem new.stem_isStem inner String.toList_ofList

/-- The plan at place `i` is a copy of a section that is not among the names, and that no plan
    before it makes. -/
def Lacks (names : List String) (plans : List SectionPlan) (i : Nat) (source : String) : Prop :=
  ∃ name old new, plans[i]? = some (.copied name source old new) ∧
    source ∉ names ++ (plans.take i).map SectionPlan.name

def FirstLack (names : List String) (plans : List SectionPlan) (source : String) : Prop :=
  ∃ i, Lacks names plans i source ∧ ∀ j < i, ∀ other, ¬Lacks names plans j other

variable {names : List String} {plan : SectionPlan} {plans : List SectionPlan} {source : String}
  {built sections : List Section} {pool left : List Declaration}

theorem lacks_zero : Lacks names (plan :: plans) 0 source ↔
    ∃ name old new, plan = .copied name source old new ∧ source ∉ names := by
  simp [Lacks]

theorem lacks_succ {i : Nat} : Lacks names (plan :: plans) (i + 1) source ↔
    Lacks (names ++ [plan.name]) plans i source := by
  simp [Lacks]

theorem firstLack_cons (supplied : ∀ s, ¬Lacks names (plan :: plans) 0 s) :
    FirstLack names (plan :: plans) source ↔ FirstLack (names ++ [plan.name]) plans source := by
  constructor
  · rintro ⟨i, lack, first⟩
    cases i with
    | zero => exact absurd lack (supplied source)
    | succ i =>
      refine ⟨i, lacks_succ.1 lack, fun j hj other earlier => ?_⟩
      exact first (j + 1) (by omega) other (lacks_succ.2 earlier)
  · rintro ⟨i, lack, first⟩
    refine ⟨i + 1, lacks_succ.2 lack, fun j hj other earlier => ?_⟩
    cases j with
    | zero => exact supplied other earlier
    | succ j => exact first j (by omega) other (lacks_succ.1 earlier)

theorem firstLack_head (lack : Lacks names (plan :: plans) 0 source) {other : String} :
    FirstLack names (plan :: plans) other ↔ other = source := by
  constructor
  · rintro ⟨i, lack', first⟩
    obtain rfl : i = 0 := by
      by_contra later
      exact first 0 (by omega) source lack
    obtain ⟨_, _, _, rfl, -⟩ := lacks_zero.1 lack
    obtain ⟨_, _, _, same, -⟩ := lacks_zero.1 lack'
    cases same
    rfl
  · rintro rfl
    exact ⟨0, lack, nofun⟩

/-- Sections cannot be built exactly if a source is wanting, and it is the first such source that is
    named. -/
theorem buildSections_eq_error_iff {e : ThemeError} : buildSections built pool plans = .error e ↔
    ∃ source, e = .unknownSection source ∧ FirstLack (built.map Section.name) plans source := by
  induction plans generalizing built pool with
  | nil => simp [buildSections, FirstLack, Lacks]
  | cons plan plans ih =>
    have more (made : Section) (named : made.name = plan.name) :
        (built ++ [made]).map Section.name = built.map Section.name ++ [plan.name] := by
      simp [named]
    cases plan with
    | mapped mapping =>
      have supplied : ∀ s, ¬Lacks (built.map Section.name) (.mapped mapping :: plans) 0 s := by
        simp [lacks_zero]
      rw [buildSections, ih, more (mapping.run pool).1 rfl]
      simp only [firstLack_cons supplied]
    | copied name source old new =>
      by_cases there : source ∈ built.map Section.name
      · obtain ⟨made, copied, named⟩ := copySection_of_mem name old new there
        have supplied : ∀ s,
            ¬Lacks (built.map Section.name) (.copied name source old new :: plans) 0 s := by
          intro s lack
          obtain ⟨_, _, _, same, wanting⟩ := lacks_zero.1 lack
          cases same
          exact wanting there
        rw [buildSections, copied]
        simp only [firstLack_cons supplied, ← more made named]
        exact ih
      · have lack :
            Lacks (built.map Section.name) (.copied name source old new :: plans) 0 source :=
          lacks_zero.2 ⟨name, old, new, rfl, there⟩
        have failed : copySection built name source old new = .error (.unknownSection source) := by
          have none : built.find? (·.name = source) = none := by simpa using there
          rw [copySection, none]
        rw [buildSections, failed]
        simp only [firstLack_head lack, exists_eq_right]
        exact ⟨fun h => (Except.error.inj h).symm, fun h => h ▸ rfl⟩

theorem copySection_eq_ok {name : String} {old new : Namespace} {made : Section}
    (h : copySection built name source old new = .ok made) :
    ∃ found, built.find? (·.name = source) = some found ∧
      made = ⟨name, found.items.map (·.replaceStem (.literal old.stem) new.stem)⟩ := by
  rw [copySection] at h
  split at h
  · cases h
  · next found there => exact ⟨found, there, (Except.ok.inj h).symm⟩

theorem buildSections_copies (h : buildSections built pool plans = .ok (sections, left)) :
    ∃ made, sections = built ++ made ∧ made.map Section.name = plans.map SectionPlan.name ∧
      ∀ n name source old new, plans[n]? = some (.copied name source old new) →
        ∃ found, (built ++ made.take n).find? (·.name = source) = some found ∧
          made[n]? = some ⟨name, found.items.map (·.replaceStem (.literal old.stem) new.stem)⟩ := by
  induction plans generalizing built pool with
  | nil =>
    obtain ⟨rfl, rfl⟩ := Prod.mk.inj (Except.ok.inj h)
    exact ⟨[], by simp, rfl, by simp⟩
  | cons plan plans ih =>
    cases plan with
    | mapped mapping =>
      rcases ran : mapping.run pool with ⟨own, rest⟩
      have named : own.name = mapping.name := (congrArg (fun r => r.1.name) ran).symm
      rw [buildSections, ran] at h
      obtain ⟨made, rfl, names, copies⟩ := ih h
      refine ⟨own :: made, (List.append_cons ..).symm, ?_, ?_⟩
      · rw [List.map_cons, List.map_cons, names, named]
        rfl
      · intro n name source old new there
        cases n with
        | zero => cases there
        | succ n =>
          rw [List.take_succ_cons, List.getElem?_cons_succ, List.append_cons]
          exact copies n name source old new there
    | copied name source old new =>
      cases copied : copySection built name source old new with
      | error e =>
        rw [buildSections, copied] at h
        cases h
      | ok copy =>
        rw [buildSections, copied] at h
        obtain ⟨made, rfl, names, copies⟩ := ih h
        obtain ⟨found, first, rfl⟩ := copySection_eq_ok copied
        refine ⟨_, (List.append_cons ..).symm, ?_, ?_⟩
        · rw [List.map_cons, List.map_cons, names]
          rfl
        · intro n name' source' old' new' there
          cases n with
          | zero =>
            cases there
            exact ⟨found, by rwa [List.take_zero, List.append_nil], rfl⟩
          | succ n =>
            rw [List.take_succ_cons, List.getElem?_cons_succ, List.append_cons]
            exact copies n name' source' old' new' there

theorem find?_section {s : Section} (distinct : (sections.map Section.name).Nodup)
    (hs : s ∈ sections) : sections.find? (·.name = s.name) = some s := by
  have there : (sections.find? (·.name = s.name)).isSome :=
    List.find?_isSome.2 ⟨s, hs, by simp⟩
  obtain ⟨t, found⟩ := Option.isSome_iff_exists.1 there
  have named : t.name = s.name := by simpa using List.find?_some found
  rw [found, List.inj_on_of_nodup_map distinct (List.mem_of_find?_eq_some found) hs named]

variable {mapping : Mapping} {claims : List (Claimant × Matcher)} {ds : List Declaration}
  {old new : Namespace}

/-- The copy of a section is the section as it would be in the other namespace. -/
theorem Mapping.copy_classified (exported : ∀ d ∈ ds, Exported d.name.toList)
    (target : mapping.targets = [old]) (name : String) (i : Nat) :
    ⟨name, (mapping.classified claims ds i).items.map
        (·.replaceStem (.literal old.stem) new.stem)⟩ =
      { mapping with name := name, targets := [new] }.classified claims ds i := by
  unfold classified
  congr 1
  rw [List.map_flatMap]
  refine List.flatMap_congr fun ⟨rule, j⟩ _ => ?_
  rw [List.map_flatMap]
  refine List.flatMap_congr fun d hd => ?_
  have given := exported d (List.mem_filter.1 hd).1
  simp only [spread, target, List.map_cons, List.map_nil]
  rw [mapping.replaceStem_modify given]
  rfl

namespace Layout

variable {layout : Layout} {a : Assembly}

theorem assemble_copies (h : layout.assemble ds = .ok a) :
    a.sections.map Section.name = layout.sections.map SectionPlan.name ∧
      ∀ n name source old new, layout.sections[n]? = some (.copied name source old new) →
        ∃ found, (a.sections.take n).find? (·.name = source) = some found ∧
          a.sections[n]? =
            some ⟨name, found.items.map (·.replaceStem (.literal old.stem) new.stem)⟩ := by
  obtain ⟨-, sections, unbound, built, rfl⟩ := assemble_eq_ok_iff.1 h
  obtain ⟨made, same, names, copies⟩ := buildSections_copies built
  obtain rfl : sections = made := same
  exact ⟨names, copies⟩

theorem sections_copied (h : layout.assemble ds = .ok a)
    (exported : ∀ d ∈ ds, Exported d.name.toList)
    (distinct : (layout.sections.map SectionPlan.name).Nodup) {i n : Nat} {name : String}
    (there : layout.sections[i]? = some (.mapped mapping)) (target : mapping.targets = [old])
    (copy : layout.sections[n]? = some (.copied name mapping.name old new)) (before : i < n) :
    a.sections[n]? =
      some ({ mapping with name := name, targets := [new] }.classified layout.claims ds i) := by
  obtain ⟨-, -, places, -⟩ := assemble_shares h
  obtain ⟨names, copies⟩ := assemble_copies h
  obtain ⟨found, first, made⟩ := copies n name mapping.name old new copy
  have apart : ((a.sections.take n).map Section.name).Nodup := by
    rw [List.map_take, names]
    exact distinct.sublist (List.take_sublist _ _)
  have inside : mapping.classified layout.claims ds i ∈ a.sections.take n := by
    apply List.mem_of_getElem? (i := i)
    rw [List.getElem?_take_of_lt before, places i mapping there]
  have source : (a.sections.take n).find? (·.name = mapping.name) =
      some (mapping.classified layout.claims ds i) := find?_section apart inside
  rw [source] at first
  obtain rfl := Option.some.inj first
  rw [made, Mapping.copy_classified exported target]

theorem assemble_eq_unknownSection_iff (uniform : checkUniform (layout.blocks ds) = .ok ()) :
    layout.assemble ds = .error (.unknownSection source) ↔ FirstLack [] layout.sections source := by
  have failed : layout.assemble ds = .error (.unknownSection source) ↔
      buildSections [] (layout.pool ds) layout.sections = .error (.unknownSection source) := by
    rw [assemble_eq, uniform]
    cases buildSections [] (layout.pool ds) layout.sections <;> simp [Except.bind]
  rw [failed, buildSections_eq_error_iff]
  simp

theorem selects_of_mem_shareOf {i j : Nat} {rule : Rule}
    (hd : d ∈ shareOf layout.claims ds (.rule i j))
    (there : layout.sections[i]? = some (.mapped mapping)) (place : mapping.rules[j]? = some rule) :
    d.isSelectedBy rule.select = true := by
  have owned : owner? layout.claims d = some (.rule i j) := by simpa using (List.mem_filter.1 hd).2
  obtain ⟨⟨_, m⟩, found, rfl⟩ := Option.map_eq_some_iff.1 owned
  obtain rfl := eq_select_of_mem_claims (List.mem_of_find?_eq_some found) there place
  simpa using List.find?_some found

end Layout

theorem Mapping.run_of_selected {rule : Rule} (one : mapping.rules = [rule])
    (selected : ∀ d ∈ ds, d.isSelectedBy rule.select = true) :
    mapping.run ds = (⟨mapping.name, ds.flatMap (mapping.spread rule)⟩, []) := by
  have taken : ds.filter (·.isSelectedBy rule.select) = ds := List.filter_eq_self.2 selected
  have left : ds.filter (not ∘ (·.isSelectedBy rule.select)) = [] := by
    rw [List.filter_eq_nil_iff]
    intro d hd
    simp [selected d hd]
  simp [run, one, claimAll, claim, List.partition_eq_filter_filter, taken, left]

theorem Mapping.classified_of_rule {rule : Rule} (one : mapping.rules = [rule]) (i : Nat) :
    mapping.classified claims ds i =
      ⟨mapping.name, (shareOf claims ds (.rule i 0)).flatMap (mapping.spread rule)⟩ := by
  simp [classified, one]

namespace Standard

def borderWidths : Mapping :=
  stemMapping "Border Widths" "--border-width" .borderWidth [pixels]

def ringWidths : Mapping := { borderWidths with name := "Ring Widths", targets := [.ringWidth] }

variable {a : Assembly}

theorem borderWidths_planned : layout.sections[7]? = some (.mapped borderWidths) := rfl

theorem names_distinct : (layout.sections.map SectionPlan.name).Nodup := by decide

theorem find?_of_getElem? {s : Section} {i : Nat} (h : layout.assemble ds = .ok a)
    (there : a.sections[i]? = some s) : a.sections.find? (·.name = s.name) = some s :=
  find?_section ((Layout.assemble_copies h).1 ▸ names_distinct) (List.mem_of_getElem? there)

theorem run_claimed {mapping : Mapping} (rules : mapping.rules = borderWidths.rules) :
    mapping.run (shareOf layout.claims ds (.rule 7 0)) =
      (mapping.classified layout.claims ds 7, []) := by
  have one : mapping.rules = [.ofStem "--border-width"] := rules
  rw [Mapping.classified_of_rule one]
  exact Mapping.run_of_selected one fun d hd =>
    Layout.selects_of_mem_shareOf hd borderWidths_planned rfl

end Standard

/-- In the standard theme, ring widths are what the declarations that fall to the border widths
    would be in the namespace of rings, in order and with their values. And whatever the layout, if
    its variants are uniform then it fails for want of a section to copy exactly if a plan copies a
    section that no earlier plan makes, and then it names the first that is wanting. -/
theorem sections_copied_or_lacking :
    (∀ ds a, (∀ d ∈ ds, Exported d.name.toList) → Standard.layout.assemble ds = .ok a →
      ∃ borders rings,
        Standard.borderWidths.run (shareOf Standard.layout.claims ds (.rule 7 0)) = (borders, []) ∧
        Standard.ringWidths.run (shareOf Standard.layout.claims ds (.rule 7 0)) = (rings, []) ∧
        a.sections.find? (·.name = "Border Widths") = some borders ∧
        a.sections.find? (·.name = "Ring Widths") = some rings) ∧
    ∀ (layout : Layout) (ds : List Declaration), checkUniform (layout.blocks ds) = .ok () →
      ((∃ source, layout.assemble ds = .error (.unknownSection source)) ↔
        ∃ i source, Lacks [] layout.sections i source) ∧
      ∀ source, layout.assemble ds = .error (.unknownSection source) ↔
        ∃ i, Lacks [] layout.sections i source ∧
          ∀ j < i, ∀ other, ¬Lacks [] layout.sections j other := by
  constructor
  · intro ds a exported h
    have source : a.sections[7]? =
        some (Standard.borderWidths.classified Standard.layout.claims ds 7) :=
      (Layout.assemble_shares h).2.2.1 7 _ Standard.borderWidths_planned
    have copy : a.sections[8]? =
        some (Standard.ringWidths.classified Standard.layout.claims ds 7) :=
      Layout.sections_copied h exported Standard.names_distinct Standard.borderWidths_planned rfl
        rfl (by decide)
    exact ⟨_, _, Standard.run_claimed rfl, Standard.run_claimed rfl,
      Standard.find?_of_getElem? h source, Standard.find?_of_getElem? h copy⟩
  · intro layout ds uniform
    have first (source : String) : layout.assemble ds = .error (.unknownSection source) ↔
        FirstLack [] layout.sections source := Layout.assemble_eq_unknownSection_iff uniform
    refine ⟨⟨?_, ?_⟩, first⟩
    · rintro ⟨source, failed⟩
      obtain ⟨i, lack, -⟩ := (first source).1 failed
      exact ⟨i, source, lack⟩
    · intro lacking
      classical
      obtain ⟨source, lack⟩ := Nat.find_spec lacking
      exact ⟨source, (first source).2 ⟨_, lack, fun j hj other earlier =>
        Nat.find_min lacking hj ⟨other, earlier⟩⟩⟩

def edges : List Declaration :=
  [⟨"--border-width-thin", "1"⟩, ⟨"--unit-1", "4"⟩, ⟨"--border-width", "2.50px"⟩,
   ⟨"--border-widths-x", "thick"⟩]

def hasty : Layout where
  variants := []
  ignored := []
  sections := [.mapped Standard.borderWidths, .copied "B" "Border Widths" .borderWidth .ringWidth,
    .copied "C" "D" .borderWidth .ringWidth, .copied "A" "E" .borderWidth .ringWidth,
    .mapped { Standard.borderWidths with name := "D" }]
  resets := []

theorem edges_copied : (∀ d ∈ edges, Exported d.name.toList) ∧
    (∃ a, Standard.layout.assemble edges = .ok a ∧ ∃ rings,
      Standard.ringWidths.run (shareOf Standard.layout.claims edges (.rule 7 0)) = (rings, []) ∧
      a.sections.find? (·.name = "Ring Widths") = some rings ∧ rings.items =
        [⟨"--ring-width-thin", "1px"⟩, ⟨"--ring-width", "2.5px"⟩, ⟨"--ring-width-s-x", "thick"⟩]) ∧
    checkUniform (hasty.blocks edges) = .ok () ∧ Lacks [] hasty.sections 2 "D" ∧
    Lacks [] hasty.sections 3 "E" ∧ hasty.assemble edges = .error (.unknownSection "D") := by
  have exported : ∀ d ∈ edges, Exported d.name.toList := by decide +kernel
  have copied : (Standard.layout.assemble edges).map (fun a =>
      (a.sections.find? (·.name = "Ring Widths")).map Section.items) =
        .ok (some [⟨"--ring-width-thin", "1px"⟩, ⟨"--ring-width", "2.5px"⟩,
          ⟨"--ring-width-s-x", "thick"⟩]) := by
    decide +kernel
  obtain ⟨a, made, items⟩ := Layout.exists_of_map_eq_ok copied
  obtain ⟨-, rings, -, run, -, there⟩ := sections_copied_or_lacking.1 edges a exported made
  rw [there] at items
  have first : Lacks [] hasty.sections 2 "D" := ⟨_, _, _, rfl, by decide⟩
  have second : Lacks [] hasty.sections 3 "E" := ⟨_, _, _, rfl, by decide⟩
  have supplied : ∀ j < 2, ∀ other, ¬Lacks [] hasty.sections j other := by
    rintro j bound other ⟨name, old, new, copy, wanting⟩
    match j with
    | 0 => cases copy
    | 1 =>
      cases copy
      exact wanting (by decide)
  have uniform : checkUniform (hasty.blocks edges) = .ok () := rfl
  exact ⟨exported, ⟨a, made, rings, run, there, Option.some.inj items⟩, uniform, first, second,
    ((sections_copied_or_lacking.2 hasty edges uniform).2 "D").2 ⟨2, first, supplied⟩⟩

end DesignTokens
