import DesignTokens.Proofs.Sheet.Sealed
import DesignTokens.Proofs.Theme.Pointers
import DesignTokens.Proofs.Theme.Scope

namespace DesignTokens

variable {P : Declaration → Prop} {pool : List Declaration}

structure ColorGroup.Keeps (group : ColorGroup) (P : Declaration → Prop) : Prop where
  scope : ∀ d, P d → P (d.replaceStem group.strip group.scope)
  point : ∀ target ∈ group.pointerTargets, ∀ d, P d →
    P ((d.replaceStem group.pointerStrip target.stem).pointTo d.name.toList)

def SectionPlan.Keeps (P : Declaration → Prop) : SectionPlan → Prop
  | mapped mapping => ∀ rule ∈ mapping.rules, ∀ target ∈ mapping.targets, ∀ d, P d →
    P (mapping.modify (d.replaceStem rule.strip target.stem))
  | copied _ _ old new => ∀ d, P d → P (d.replaceStem (.literal old.stem) new.stem)

structure Layout.Keeps (layout : Layout) (P : Declaration → Prop) : Prop where
  groups : ∀ v ∈ layout.variants, ∀ group ∈ v.groups, group.Keeps P
  sections : ∀ plan ∈ layout.sections, plan.Keeps P

theorem forall_claimAll (ms : List Matcher) (h : ∀ d ∈ pool, P d) :
    (∀ share ∈ (claimAll ms pool).1, ∀ d ∈ share, P d) ∧
      ∀ d ∈ (claimAll ms pool).2, P d := by
  induction ms generalizing pool with
  | nil => exact ⟨by simp [claimAll], h⟩
  | cons m ms ih =>
    simp only [claimAll, claim, List.partition_eq_filter_filter]
    obtain ⟨shares, left⟩ := ih fun d hd => h d (List.mem_filter.1 hd).1
    exact ⟨List.forall_mem_cons.2 ⟨fun d hd => h d (List.mem_filter.1 hd).1, shares⟩, left⟩

theorem Variant.forall_run {v : Variant} (keeps : ∀ group ∈ v.groups, group.Keeps P)
    (h : ∀ d ∈ pool, P d) :
    (∀ entry ∈ (v.run pool).1, entry.1.Keeps P ∧ ∀ d ∈ entry.2, P d) ∧
      ∀ d ∈ (v.run pool).2, P d := by
  obtain ⟨shares, left⟩ := forall_claimAll (v.groups.map ColorGroup.select) h
  refine ⟨?_, left⟩
  intro entry present
  obtain ⟨⟨group, share⟩, paired, rfl⟩ := List.mem_map.1 present
  obtain ⟨hg, hs⟩ := List.of_mem_zip paired
  refine ⟨keeps group hg, fun d hd => ?_⟩
  obtain ⟨e, he, rfl⟩ := List.mem_map.1 hd
  exact (keeps group hg).scope e (shares share hs e he)

theorem forall_runVariants {vs : List Variant} (keeps : ∀ v ∈ vs, ∀ group ∈ v.groups, group.Keeps P)
    (h : ∀ d ∈ pool, P d) :
    (∀ groups ∈ (runVariants vs pool).1, ∀ entry ∈ groups,
      entry.1.Keeps P ∧ ∀ d ∈ entry.2, P d) ∧ ∀ d ∈ (runVariants vs pool).2, P d := by
  induction vs generalizing pool with
  | nil => exact ⟨by simp [runVariants], h⟩
  | cons v vs ih =>
    obtain ⟨first, rest⟩ := List.forall_mem_cons.1 keeps
    obtain ⟨mine, left⟩ := Variant.forall_run first h
    obtain ⟨others, left⟩ := ih rest left
    exact ⟨List.forall_mem_cons.2 ⟨mine, others⟩, left⟩

theorem Mapping.forall_run {mapping : Mapping} (keeps : (SectionPlan.mapped mapping).Keeps P)
    (h : ∀ d ∈ pool, P d) :
    (∀ d ∈ (mapping.run pool).1.items, P d) ∧ ∀ d ∈ (mapping.run pool).2, P d := by
  obtain ⟨shares, left⟩ := forall_claimAll (mapping.rules.map Rule.select) h
  refine ⟨?_, left⟩
  intro d hd
  obtain ⟨⟨rule, share⟩, paired, hd⟩ := List.mem_flatMap.1 hd
  obtain ⟨hr, hs⟩ := List.of_mem_zip paired
  obtain ⟨e, he, hd⟩ := List.mem_flatMap.1 hd
  obtain ⟨target, ht, rfl⟩ := List.mem_map.1 hd
  exact keeps rule hr target ht e (shares share hs e he)

theorem forall_copySection {built : List Section} {name source : String} {old new : Namespace}
    {made : Section} (keeps : (SectionPlan.copied name source old new).Keeps P)
    (ofBuilt : ∀ s ∈ built, ∀ d ∈ s.items, P d)
    (h : copySection built name source old new = .ok made) :
    made.name = name ∧ ∀ d ∈ made.items, P d := by
  rw [copySection] at h
  split at h
  · cases h
  · next found there =>
    cases h
    refine ⟨rfl, fun d hd => ?_⟩
    obtain ⟨e, he, rfl⟩ := List.mem_map.1 hd
    exact keeps e (ofBuilt found (List.mem_of_find?_eq_some there) e he)

theorem Mapping.forall_modify {d : Declaration} (mapping : Mapping)
    (apply : ∀ m ∈ mapping.modifiers, ∀ d, P d → P (m.apply d)) (h : P d) :
    P (mapping.modify d) := by
  unfold modify
  generalize mapping.modifiers = ms at apply
  induction ms generalizing d with
  | nil => exact h
  | cons m ms ih =>
    obtain ⟨first, rest⟩ := List.forall_mem_cons.1 apply
    exact ih (first d h) rest

theorem forall_buildSections {plans : List SectionPlan} {built sections : List Section}
    {left : List Declaration} (keeps : ∀ plan ∈ plans, plan.Keeps P)
    (ofBuilt : ∀ s ∈ built, ∀ d ∈ s.items, P d) (h : ∀ d ∈ pool, P d)
    (made : buildSections built pool plans = .ok (sections, left)) :
    sections.map Section.name = built.map Section.name ++ plans.map SectionPlan.name ∧
      (∀ s ∈ sections, ∀ d ∈ s.items, P d) ∧ ∀ d ∈ left, P d := by
  induction plans generalizing built pool with
  | nil =>
    obtain ⟨rfl, rfl⟩ := Prod.mk.inj (Except.ok.inj made)
    exact ⟨by simp, ofBuilt, h⟩
  | cons plan plans ih =>
    obtain ⟨first, rest⟩ := List.forall_mem_cons.1 keeps
    cases plan with
    | mapped mapping =>
      obtain ⟨items, left⟩ := Mapping.forall_run first h
      rw [buildSections] at made
      obtain ⟨names, kept⟩ :=
        ih rest (List.forall_mem_append.2 ⟨ofBuilt, List.forall_mem_singleton.2 items⟩) left made
      exact ⟨by simpa [Mapping.run, SectionPlan.name] using names, kept⟩
    | copied name source old new =>
      -- A copy takes from what is built, so what is built has to have the property as well.
      cases copied : copySection built name source old new with
      | error e =>
        rw [buildSections, copied] at made
        cases made
      | ok copy =>
        rw [buildSections, copied] at made
        obtain ⟨named, items⟩ := forall_copySection first ofBuilt copied
        obtain ⟨names, kept⟩ :=
          ih rest (List.forall_mem_append.2 ⟨ofBuilt, List.forall_mem_singleton.2 items⟩) h made
        exact ⟨by simpa [named, SectionPlan.name] using names, kept⟩

/-- What holds of all declarations that a layout is given holds of all that it makes of them, if the
    layout keeps it. -/
theorem Layout.Keeps.assemble {layout : Layout} {ds : List Declaration} {a : Assembly}
    (keeps : layout.Keeps P) (given : ∀ d ∈ ds, P d) (h : layout.assemble ds = .ok a) :
    (∀ d ∈ a.pointers, P d) ∧ (∀ v ∈ a.variants, ∀ d ∈ v.items, P d) ∧
      (∀ s ∈ a.sections, ∀ d ∈ s.items, P d) ∧ (∀ d ∈ a.unbound, P d) ∧
      a.sections.map Section.name = layout.sections.map SectionPlan.name := by
  obtain ⟨-, sections, unbound, built, rfl⟩ := assemble_eq_ok_iff.1 h
  have kept := (forall_claimAll layout.ignored given).2
  obtain ⟨colors, pool⟩ := forall_runVariants keeps.groups kept
  obtain ⟨names, items, left⟩ := forall_buildSections keeps.sections (by simp) pool built
  refine ⟨?_, ?_, items, left, by simpa using names⟩
  · intro p hp
    obtain ⟨⟨group, items⟩, present, hp⟩ := List.mem_flatMap.1 hp
    obtain ⟨d, hd, hp⟩ := List.mem_flatMap.1 hp
    obtain ⟨target, ht, rfl⟩ := List.mem_map.1 hp
    have first : ∃ groups ∈ layout.colors ds, (group, items) ∈ groups := by
      cases heads : layout.colors ds with
      | nil => simp [heads] at present
      | cons groups others => exact ⟨groups, by simp, by simpa [heads] using present⟩
    obtain ⟨groups, hg, present⟩ := first
    obtain ⟨group, items⟩ := colors groups hg _ present
    exact group.point target ht d (items d hd)
  · intro v hv d hd
    obtain ⟨⟨variant, groups⟩, paired, rfl⟩ := List.mem_map.1 hv
    obtain ⟨entry, present, hd⟩ := List.mem_flatMap.1 hd
    exact (colors groups (List.of_mem_zip paired).2 entry present).2 d hd

namespace Matcher

variable {text word : String}

def TakesInert (m : Matcher) : Prop :=
  ∀ name, ∃ front, name = front ++ m.strip name ∧ Sheet.Inert front

theorem takesInert_literal (inert : Sheet.Inert text.toList) :
    (literal text).TakesInert := by
  intro name
  by_cases taken : text.toList ≠ [] ∧ text.toList <+: name
  · obtain ⟨ne, rest, rfl⟩ := taken
    exact ⟨text.toList, by rw [strip_literal ne], inert⟩
  · refine ⟨[], ?_, .nil⟩
    rw [strip, rest?, afterText?_eq, if_neg taken]
    rfl

theorem takesInert_stem {source : String} (characters : text.toList ≠ [])
    (letters : word.toList ≠ []) (inert : Sheet.Inert (text.toList ++ word.toList)) :
    (pattern source (Regex.stem text word)).TakesInert := by
  intro name
  rw [strip, rest?, Regex.leading?_stem characters letters]
  by_cases begins : text.toList <+: name
  · obtain ⟨rest, rfl⟩ := begins
    rw [if_pos (List.prefix_append _ _), List.drop_left]
    by_cases more : word.toList <+: rest
    · obtain ⟨rest, rfl⟩ := more
      refine ⟨text.toList ++ word.toList, ?_, inert⟩
      rw [if_pos (List.prefix_append _ _), List.drop_left, List.append_assoc, Option.getD_some]
    · refine ⟨text.toList, ?_, fun c hc => inert c (List.mem_append_left _ hc)⟩
      rw [if_neg more, Option.getD_some]
  · refine ⟨[], ?_, .nil⟩
    rw [if_neg begins]
    rfl

end Matcher

instance (s : List Char) : Decidable (Dashed s) :=
  decidable_of_iff ((s.all fun c => c.isAlphanum || c = '-') = true ∧ s.head? ≠ some '-')
    (by simp [Dashed])

def PlainStem (stem : String) : Prop :=
  ∃ core, stem.toList = '-' :: '-' :: core ∧ Dashed core ∧ core ≠ []

theorem plainStem_iff {stem : String} : PlainStem stem ↔ stem.toList.take 2 = ['-', '-'] ∧
    Dashed (stem.toList.drop 2) ∧ stem.toList.drop 2 ≠ [] := by
  constructor
  · rintro ⟨core, whole, dashed, ne⟩
    rw [whole]
    exact ⟨rfl, dashed, ne⟩
  · rintro ⟨dashes, dashed, ne⟩
    have split := List.take_append_drop 2 stem.toList
    rw [dashes] at split
    exact ⟨_, split.symm, dashed, ne⟩

instance (stem : String) : Decidable (PlainStem stem) := decidable_of_iff _ plainStem_iff.symm

theorem Dashed.letters {s : List Char} (h : Dashed s) :
    ∀ c ∈ '-' :: '-' :: s, c.isAlphanum = true ∨ c = '-' :=
  List.forall_mem_cons.2 ⟨.inr rfl, List.forall_mem_cons.2 ⟨.inr rfl, h.1⟩⟩

theorem PlainStem.letters {stem : String} (h : PlainStem stem) :
    ∀ c ∈ stem.toList, c.isAlphanum = true ∨ c = '-' := by
  obtain ⟨core, whole, dashed, -⟩ := h
  rw [whole]
  exact dashed.letters

theorem Namespace.stem_plain (n : Namespace) : PlainStem n.stem := by cases n <;> decide

namespace Standard

theorem textStem_inert {theme : String} (h : Sheet.Inert theme.toList) :
    (textStem theme).TakesInert := by
  apply Matcher.takesInert_stem
  · simp
  · decide
  · simp only [String.toList_append]
    have start : Sheet.Inert "--semantic-color-".toList := by decide
    exact ((start.append h).append (by decide)).append (by decide)

theorem scope_plain {theme : String} : ∀ group ∈ colorGroups theme, PlainStem group.scope := by
  have scopes : ∀ scope ∈ (colorGroups theme).map ColorGroup.scope, PlainStem scope := by
    rw [map_scope]
    decide
  exact fun group hg => scopes group.scope (List.mem_map_of_mem hg)

theorem groups_inert : ∀ theme ∈ themes, ∀ group ∈ colorGroups theme,
    group.strip.TakesInert ∧ group.pointerStrip.TakesInert := by
  intro theme ht group hg
  have inert : ∀ theme ∈ themes, Sheet.Inert theme.toList := by decide
  have literal (word : String) (h : Sheet.Inert word.toList) :
      (Matcher.literal ("--semantic-color-" ++ theme ++ word)).TakesInert := by
    apply Matcher.takesInert_literal
    simp only [String.toList_append]
    have start : Sheet.Inert "--semantic-color-".toList := by decide
    exact (start.append (inert theme ht)).append h
  simp only [colorGroups, List.mem_cons, List.not_mem_nil, or_false] at hg
  rcases hg with rfl | rfl | rfl | rfl
  · exact ⟨literal _ (by decide), Matcher.takesInert_literal (by decide)⟩
  · exact ⟨textStem_inert (inert theme ht),
      Matcher.takesInert_stem (by decide) (by decide) (by decide)⟩
  · exact ⟨literal _ (by decide), Matcher.takesInert_literal (by decide)⟩
  · have stem := literal "" (by decide)
    rw [String.append_empty] at stem
    exact ⟨stem, Matcher.takesInert_literal (by decide)⟩

theorem stemMapping_inert {name stem : String} {target : Namespace} {modifiers : List Modifier}
    (inert : Sheet.Inert stem.toList) :
    ∀ rule ∈ (stemMapping name stem target modifiers).rules, rule.strip.TakesInert := by
  intro rule hr
  rw [List.mem_singleton.1 hr]
  exact Matcher.takesInert_literal inert

theorem typeScale_inert {name suffix : String} {target : Namespace} {modifiers : List Modifier}
    (inert : Sheet.Inert suffix.toList) :
    ∀ rule ∈ (typeScale name suffix target modifiers).rules, rule.strip.TakesInert := by
  intro rule hr
  simp only [typeScale, List.mem_cons, List.not_mem_nil, or_false] at hr
  rcases hr with rfl | rfl | rfl
  · apply Matcher.takesInert_literal
    rw [String.toList_append]
    exact .append (by decide) inert
  · exact Matcher.takesInert_literal (by decide)
  · exact Matcher.takesInert_literal (by decide)

theorem mappings_inert : ∀ mapping, .mapped mapping ∈ sections →
    (∀ rule ∈ mapping.rules, rule.strip.TakesInert) ∧
      ∀ m ∈ mapping.modifiers, m.unit ≠ .percent := by
  intro mapping hm
  simp only [sections, List.mem_cons, SectionPlan.mapped.injEq, reduceCtorEq, List.not_mem_nil,
    or_false, false_or] at hm
  rcases hm with rfl | rfl | rfl | rfl | rfl | rfl | rfl | rfl | rfl
  · exact ⟨stemMapping_inert (by decide), by simp [stemMapping]⟩
  · exact ⟨stemMapping_inert (by decide), by simp [stemMapping, pixels]⟩
  · exact ⟨typeScale_inert (by decide), by simp [typeScale]⟩
  · exact ⟨typeScale_inert (by decide), by simp [typeScale]⟩
  · exact ⟨typeScale_inert (by decide), by simp [typeScale]⟩
  · exact ⟨stemMapping_inert (by decide), by simp [stemMapping]⟩
  · exact ⟨stemMapping_inert (by decide), by simp [stemMapping, pixels]⟩
  · exact ⟨stemMapping_inert (by decide), by simp [stemMapping, pixels]⟩
  · exact ⟨stemMapping_inert (by decide), by simp [stemMapping, pixels]⟩

theorem layout_keeps
    (replace : ∀ {d : Declaration} {m : Matcher} {stem : String}, m.TakesInert → PlainStem stem →
      P d → P (d.replaceStem m stem))
    (apply : ∀ {d : Declaration} {m : Modifier}, m.unit ≠ .percent → P d → P (m.apply d))
    (point : ∀ {d e : Declaration}, P d → P e → P (d.pointTo e.name.toList)) : layout.Keeps P := by
  constructor
  · intro v hv group hg
    obtain ⟨theme, ht, rfl⟩ := List.mem_map.1 hv
    obtain ⟨strip, pointerStrip⟩ := groups_inert theme ht group hg
    exact ⟨fun d => replace strip (scope_plain group hg),
      fun target _ d h => point (replace pointerStrip target.stem_plain h) h⟩
  · intro plan hp
    cases plan with
    | mapped mapping =>
      obtain ⟨strips, units⟩ := mappings_inert mapping hp
      intro rule hr target _ d h
      have moved := replace (strips rule hr) target.stem_plain h
      exact mapping.forall_modify (fun m hm d => apply (units m hm)) moved
    | copied name source old new =>
      intro d h
      have strip : (Matcher.literal old.stem).TakesInert := by
        apply Matcher.takesInert_literal
        cases old <;> decide
      exact replace strip new.stem_plain h

end Standard

end DesignTokens
