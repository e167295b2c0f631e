import DesignTokens.Proofs.Theme.Owner
import DesignTokens.Proofs.Theme.Assembly

namespace DesignTokens

/-- Who may claim declarations in a layout, by place: a matcher of what is ignored, a group of a
    variant, or a rule of a section. -/
inductive Claimant where
  | ignored (i : Nat)
  | color (variant group : Nat)
  | rule (plan i : Nat)
  deriving DecidableEq

def numbered (label : Nat → Claimant) (ms : List Matcher) : List (Claimant × Matcher) :=
  ms.zipIdx.map fun (m, i) => (label i, m)

def Variant.selects (v : Variant) : List Matcher := v.groups.map ColorGroup.select

def SectionPlan.selects : SectionPlan → List Matcher
  | mapped mapping => mapping.rules.map Rule.select
  | copied .. => []

def Variant.claims (v : Variant) (i : Nat) : List (Claimant × Matcher) :=
  numbered (.color i) v.selects

def SectionPlan.claims (plan : SectionPlan) (i : Nat) : List (Claimant × Matcher) :=
  numbered (.rule i) plan.selects

def variantClaims (vs : List Variant) (k : Nat) : List (Claimant × Matcher) :=
  (vs.zipIdx k).flatMap fun (v, i) => v.claims i

def sectionClaims (plans : List SectionPlan) (k : Nat) : List (Claimant × Matcher) :=
  (plans.zipIdx k).flatMap fun (plan, i) => plan.claims i

namespace Layout

def claims (layout : Layout) : List (Claimant × Matcher) :=
  numbered .ignored layout.ignored ++ variantClaims layout.variants 0 ++
    sectionClaims layout.sections 0

end Layout

/-- What the groups of variant number `i` make of their shares. -/
def Variant.classified (claims : List (Claimant × Matcher)) (ds : List Declaration) (v : Variant)
    (i : Nat) : List (ColorGroup × List Declaration) :=
  v.groups.zipIdx.map fun (group, j) => (group, group.inScope (shareOf claims ds (.color i j)))

/-- The section number `i` from the shares of its rules: each declaration in every target. -/
def Mapping.classified (claims : List (Claimant × Matcher)) (ds : List Declaration)
    (mapping : Mapping) (i : Nat) : Section :=
  ⟨mapping.name, mapping.rules.zipIdx.flatMap fun (rule, j) =>
    (shareOf claims ds (.rule i j)).flatMap (mapping.spread rule)⟩

theorem zipIdx_numbers {α : Type} (xs : List α) :
    xs.zipIdx.map Prod.snd = List.range xs.length := by
  rw [List.zipIdx_map_snd, List.range_eq_range']

theorem numbered_matchers (label : Nat → Claimant) (ms : List Matcher) :
    (numbered label ms).map Prod.snd = ms := by
  unfold numbered
  rw [List.map_map]
  exact List.zipIdx_map_fst ..

theorem numbered_labels (label : Nat → Claimant) (ms : List Matcher) :
    (numbered label ms).map Prod.fst = (List.range ms.length).map label := by
  unfold numbered
  rw [List.map_map, ← zipIdx_numbers, List.map_map]
  rfl

theorem numbered_nodup {label : Nat → Claimant} (injective : Function.Injective label)
    (ms : List Matcher) : ((numbered label ms).map Prod.fst).Nodup := by
  rw [numbered_labels]
  exact List.nodup_range.map injective

def Claimant.part : Claimant → Nat
  | ignored i => i
  | color variant _ => variant
  | rule plan _ => plan

theorem flatMap_claims_nodup {α : Type} (xs : List α) (k : Nat)
    (claims : α → Nat → List (Claimant × Matcher))
    (inside : ∀ x i, ∀ c ∈ (claims x i).map Prod.fst, c.part = i)
    (distinct : ∀ x i, ((claims x i).map Prod.fst).Nodup) :
    (((xs.zipIdx k).flatMap fun (x, i) => claims x i).map Prod.fst).Nodup := by
  rw [List.map_flatMap, List.nodup_flatMap]
  refine ⟨fun x _ => distinct x.1 x.2, ?_⟩
  have numbers : ((xs.zipIdx k).map Prod.snd).Nodup := by
    rw [List.zipIdx_map_snd]
    exact List.nodup_range'
  refine (List.pairwise_map.1 numbers).imp ?_
  intro x y apart c inX inY
  exact apart ((inside _ _ _ inX).symm.trans (inside _ _ _ inY))

theorem Variant.mem_claims {v : Variant} {i : Nat} {c : Claimant}
    (h : c ∈ (v.claims i).map Prod.fst) : ∃ j, c = .color i j := by
  rw [Variant.claims, numbered_labels] at h
  obtain ⟨j, -, rfl⟩ := List.mem_map.1 h
  exact ⟨j, rfl⟩

theorem SectionPlan.mem_claims {plan : SectionPlan} {i : Nat} {c : Claimant}
    (h : c ∈ (plan.claims i).map Prod.fst) : ∃ j, c = .rule i j := by
  rw [SectionPlan.claims, numbered_labels] at h
  obtain ⟨j, -, rfl⟩ := List.mem_map.1 h
  exact ⟨j, rfl⟩

theorem mem_variantClaims {vs : List Variant} {k : Nat} {c : Claimant}
    (h : c ∈ (variantClaims vs k).map Prod.fst) : ∃ i j, k ≤ i ∧ c = .color i j := by
  rw [variantClaims, List.map_flatMap] at h
  obtain ⟨⟨v, i⟩, place, inside⟩ := List.mem_flatMap.1 h
  obtain ⟨j, rfl⟩ := Variant.mem_claims inside
  exact ⟨i, j, List.le_snd_of_mem_zipIdx place, rfl⟩

theorem mem_sectionClaims {plans : List SectionPlan} {k : Nat} {c : Claimant}
    (h : c ∈ (sectionClaims plans k).map Prod.fst) : ∃ i j, k ≤ i ∧ c = .rule i j := by
  rw [sectionClaims, List.map_flatMap] at h
  obtain ⟨⟨plan, i⟩, place, inside⟩ := List.mem_flatMap.1 h
  obtain ⟨j, rfl⟩ := SectionPlan.mem_claims inside
  exact ⟨i, j, List.le_snd_of_mem_zipIdx place, rfl⟩

theorem variantClaims_nodup (vs : List Variant) (k : Nat) :
    ((variantClaims vs k).map Prod.fst).Nodup := by
  apply flatMap_claims_nodup vs k Variant.claims
  · intro v i c h
    obtain ⟨j, rfl⟩ := Variant.mem_claims h
    rfl
  · exact fun v i => numbered_nodup (fun _ _ h => (Claimant.color.inj h).2) _

theorem sectionClaims_nodup (plans : List SectionPlan) (k : Nat) :
    ((sectionClaims plans k).map Prod.fst).Nodup := by
  apply flatMap_claims_nodup plans k SectionPlan.claims
  · intro plan i c h
    obtain ⟨j, rfl⟩ := SectionPlan.mem_claims h
    rfl
  · exact fun plan i => numbered_nodup (fun _ _ h => (Claimant.rule.inj h).2) _

theorem Layout.claims_nodup (layout : Layout) : (layout.claims.map Prod.fst).Nodup := by
  rw [Layout.claims, List.map_append, List.map_append]
  have ignored := numbered_nodup (fun _ _ h => Claimant.ignored.inj h) layout.ignored
  refine List.nodup_append.2 ⟨List.nodup_append.2 ⟨ignored, variantClaims_nodup _ _, ?_⟩,
    sectionClaims_nodup _ _, ?_⟩
  · rintro c inside _ other rfl
    obtain ⟨i, j, -, rfl⟩ := mem_variantClaims other
    rw [numbered_labels] at inside
    simp at inside
  · rintro c inside _ other rfl
    obtain ⟨i, j, -, rfl⟩ := mem_sectionClaims other
    rcases List.mem_append.1 inside with inside | inside
    · rw [numbered_labels] at inside
      simp at inside
    · obtain ⟨_, _, -, h⟩ := mem_variantClaims inside
      cases h

variable {before : List (Claimant × Matcher)} {ds : List Declaration}

theorem claimAll_numbered (label : Nat → Claimant) {ms : List Matcher}
    (distinct : ((before ++ numbered label ms).map Prod.fst).Nodup) :
    claimAll ms (unclaimed before ds) =
      ((List.range ms.length).map fun j => shareOf (before ++ numbered label ms) ds (label j),
        unclaimed (before ++ numbered label ms) ds) := by
  have claimed := claimAll_unclaimed ds distinct
  rw [numbered_matchers] at claimed
  rw [claimed]
  congr 1
  have labels := congrArg (List.map (shareOf (before ++ numbered label ms) ds))
    (numbered_labels label ms)
  rw [List.map_map, List.map_map] at labels
  exact labels

theorem zip_map_zipIdx {α β : Type} (xs : List α) (f : α × Nat → β) :
    xs.zip (xs.zipIdx.map f) = xs.zipIdx.map fun x => (x.1, f x) := by
  rw [← List.zip_map', List.zipIdx_map_fst]

theorem zip_map_range {α β : Type} (xs : List α) (f : Nat → β) :
    xs.zip ((List.range xs.length).map f) = xs.zipIdx.map fun (x, i) => (x, f i) := by
  rw [← zipIdx_numbers, List.map_map, zip_map_zipIdx]
  rfl

theorem Variant.run_unclaimed (v : Variant) (ds : List Declaration) (i : Nat)
    (distinct : ((before ++ v.claims i).map Prod.fst).Nodup) :
    v.run (unclaimed before ds) =
      (v.classified (before ++ v.claims i) ds i, unclaimed (before ++ v.claims i) ds) := by
  have selects : v.groups.map ColorGroup.select = v.selects := rfl
  unfold Variant.run
  rw [selects, claimAll_numbered (.color i) distinct, ← selects, List.length_map]
  dsimp only
  rw [zip_map_range, List.map_map]
  rfl

theorem Mapping.run_unclaimed (mapping : Mapping) (ds : List Declaration) (i : Nat)
    (distinct : ((before ++ (SectionPlan.mapped mapping).claims i).map Prod.fst).Nodup) :
    mapping.run (unclaimed before ds) =
      (mapping.classified (before ++ (SectionPlan.mapped mapping).claims i) ds i,
        unclaimed (before ++ (SectionPlan.mapped mapping).claims i) ds) := by
  have selects : mapping.rules.map Rule.select = (SectionPlan.mapped mapping).selects := rfl
  unfold Mapping.run
  rw [selects, claimAll_numbered (.rule i) distinct, ← selects, List.length_map]
  dsimp only
  rw [zip_map_range, List.flatMap_map]
  rfl

theorem Variant.classified_append {after : List (Claimant × Matcher)} (v : Variant) {i : Nat}
    (later : ∀ j, .color i j ∉ after.map Prod.fst) :
    v.classified (before ++ after) ds i = v.classified before ds i := by
  unfold Variant.classified
  simp only [shareOf_append (later _)]

theorem Mapping.classified_append {after : List (Claimant × Matcher)} (mapping : Mapping) {i : Nat}
    (later : ∀ j, .rule i j ∉ after.map Prod.fst) :
    mapping.classified (before ++ after) ds i = mapping.classified before ds i := by
  unfold Mapping.classified
  simp only [shareOf_append (later _)]

theorem runVariants_unclaimed (vs : List Variant) (ds : List Declaration) (k : Nat)
    (distinct : ((before ++ variantClaims vs k).map Prod.fst).Nodup) :
    runVariants vs (unclaimed before ds) =
      ((vs.zipIdx k).map fun (v, i) => v.classified (before ++ variantClaims vs k) ds i,
        unclaimed (before ++ variantClaims vs k) ds) := by
  induction vs generalizing k before with
  | nil => simp [runVariants, variantClaims]
  | cons v vs ih =>
    have split : before ++ variantClaims (v :: vs) k =
        before ++ v.claims k ++ variantClaims vs (k + 1) := by
      simp [variantClaims]
    rw [split] at distinct ⊢
    have first := v.run_unclaimed ds k
      (List.Nodup.of_append_left (List.map_append ▸ distinct))
    have later : ∀ j, .color k j ∉ (variantClaims vs (k + 1)).map Prod.fst := by
      intro j inside
      obtain ⟨i, l, bound, same⟩ := mem_variantClaims inside
      cases same
      omega
    rw [runVariants, first]
    dsimp only
    rw [ih (k + 1) distinct, List.zipIdx_cons, List.map_cons]
    dsimp only
    rw [v.classified_append later]

theorem buildSections_unclaimed {plans : List SectionPlan} {k : Nat} {built sections : List Section}
    {left : List Declaration}
    (distinct : ((before ++ sectionClaims plans k).map Prod.fst).Nodup)
    (h : buildSections built (unclaimed before ds) plans = .ok (sections, left)) :
    left = unclaimed (before ++ sectionClaims plans k) ds ∧
      ∃ made, sections = built ++ made ∧ made.length = plans.length ∧
        ∀ (n : Nat) (mapping : Mapping), plans[n]? = some (.mapped mapping) →
          made[n]? = some (mapping.classified (before ++ sectionClaims plans k) ds (k + n)) := by
  induction plans generalizing k before built with
  | nil =>
    obtain ⟨rfl, rfl⟩ := Prod.mk.inj (Except.ok.inj h)
    refine ⟨by simp [sectionClaims], [], by simp, rfl, ?_⟩
    intro n mapping there
    cases there
  | cons plan plans ih =>
    have split : before ++ sectionClaims (plan :: plans) k =
        before ++ plan.claims k ++ sectionClaims plans (k + 1) := by
      simp [sectionClaims]
    rw [split] at distinct ⊢
    cases plan with
    | mapped mapping =>
      have first := mapping.run_unclaimed ds k
        (List.Nodup.of_append_left (List.map_append ▸ distinct))
      rw [buildSections, first] at h
      obtain ⟨rest, made, rfl, length, others⟩ := ih distinct h
      refine ⟨rest, mapping.classified (before ++ (SectionPlan.mapped mapping).claims k) ds k :: made,
        by simp, by simp [length], ?_⟩
      intro n other there
      cases n with
      | zero =>
        cases there
        have later : ∀ j, .rule k j ∉ (sectionClaims plans (k + 1)).map Prod.fst := by
          intro j inside
          obtain ⟨i, l, bound, same⟩ := mem_sectionClaims inside
          cases same
          omega
        exact congrArg some (mapping.classified_append later).symm
      | succ n =>
        rw [show k + (n + 1) = k + 1 + n by omega]
        exact others n other there
    | copied name source old new =>
      cases copied : copySection built name source old new with
      | error e =>
        rw [buildSections, copied] at h
        cases h
      | ok copy =>
        rw [buildSections, copied] at h
        have nothing : (SectionPlan.copied name source old new).claims k = [] := rfl
        rw [nothing, List.append_nil] at distinct ⊢
        obtain ⟨rest, made, rfl, length, others⟩ := ih distinct h
        refine ⟨rest, copy :: made, by simp, by simp [length], ?_⟩
        intro n other there
        cases n with
        | zero => cases there
        | succ n =>
          rw [show k + (n + 1) = k + 1 + n by omega]
          exact others n other there

namespace Layout

variable {layout : Layout}

theorem claims_matchers (layout : Layout) :
    layout.claims.map Prod.snd = layout.ignored ++ layout.variants.flatMap Variant.selects ++
      layout.sections.flatMap SectionPlan.selects := by
  have ofVariants : (variantClaims layout.variants 0).map Prod.snd =
      layout.variants.flatMap Variant.selects := by
    rw [variantClaims, List.map_flatMap]
    simp only [Variant.claims, numbered_matchers]
    rw [← List.flatMap_map, List.zipIdx_map_fst]
  have ofSections : (sectionClaims layout.sections 0).map Prod.snd =
      layout.sections.flatMap SectionPlan.selects := by
    rw [sectionClaims, List.map_flatMap]
    simp only [SectionPlan.claims, numbered_matchers]
    rw [← List.flatMap_map, List.zipIdx_map_fst]
  rw [claims, List.map_append, List.map_append, numbered_matchers, ofVariants, ofSections]

theorem mem_claims_ignored {i : Nat} {m : Matcher} (h : (.ignored i, m) ∈ layout.claims) :
    layout.ignored[i]? = some m := by
  rw [claims, List.mem_append, List.mem_append] at h
  rcases h with (ignored | color) | rule
  · obtain ⟨⟨m', k⟩, place, same⟩ := List.mem_map.1 ignored
    cases same
    exact List.mem_zipIdx_iff_getElem?.1 place
  · obtain ⟨_, _, -, same⟩ := mem_variantClaims (List.mem_map_of_mem color)
    cases same
  · obtain ⟨_, _, -, same⟩ := mem_sectionClaims (List.mem_map_of_mem rule)
    cases same

theorem mem_claims_rule {i j : Nat} {m : Matcher} (h : (.rule i j, m) ∈ layout.claims) :
    ∃ plan, layout.sections[i]? = some plan ∧ plan.selects[j]? = some m := by
  rw [claims, List.mem_append, List.mem_append] at h
  rcases h with (ignored | color) | rule
  · obtain ⟨_, -, same⟩ := List.mem_map.1 ignored
    cases same
  · obtain ⟨_, _, -, same⟩ := mem_variantClaims (List.mem_map_of_mem color)
    cases same
  · obtain ⟨⟨plan, k⟩, planned, own⟩ := List.mem_flatMap.1 rule
    obtain ⟨⟨m', l⟩, selected, same⟩ := List.mem_map.1 own
    cases same
    exact ⟨plan, List.mem_zipIdx_iff_getElem?.1 planned, List.mem_zipIdx_iff_getElem?.1 selected⟩

theorem eq_select_of_mem_claims {i j : Nat} {m : Matcher} {mapping : Mapping} {rule : Rule}
    (h : (.rule i j, m) ∈ layout.claims) (there : layout.sections[i]? = some (.mapped mapping))
    (place : mapping.rules[j]? = some rule) : m = rule.select := by
  obtain ⟨plan, planned, selects⟩ := mem_claims_rule h
  obtain rfl := Option.some.inj (there.symm.trans planned)
  have same : (SectionPlan.mapped mapping).selects[j]? = some rule.select := by
    rw [SectionPlan.selects, List.getElem?_map, place]
    rfl
  exact (Option.some.inj (same.symm.trans selects)).symm

theorem colors_pool_eq (layout : Layout) (ds : List Declaration) :
    layout.colors ds =
        (layout.variants.zipIdx.map fun (v, i) => v.classified layout.claims ds i) ∧
      layout.pool ds =
        unclaimed (numbered .ignored layout.ignored ++ variantClaims layout.variants 0) ds := by
  have distinct := layout.claims_nodup
  rw [claims, List.map_append] at distinct
  have front := List.Nodup.of_append_left distinct
  have start : ((numbered .ignored layout.ignored).map Prod.fst).Nodup :=
    List.Nodup.of_append_left (List.map_append ▸ front)
  have kept : (claimAll layout.ignored ds).2 =
      unclaimed (numbered .ignored layout.ignored) ds := by
    have claimed : claimAll layout.ignored (unclaimed ([] : List (Claimant × Matcher)) ds) = _ :=
      claimAll_numbered .ignored start
    rw [unclaimed_nil] at claimed
    rw [claimed]
    rfl
  have ran := runVariants_unclaimed layout.variants ds 0 front
  rw [colors, pool, kept, ran]
  refine ⟨List.map_congr_left fun ⟨v, i⟩ _ => ?_, rfl⟩
  refine (v.classified_append fun j inside => ?_).symm
  obtain ⟨_, _, -, same⟩ := mem_sectionClaims inside
  cases same

/-- What a layout makes of the shares of its claimants. -/
theorem assemble_shares {ds : List Declaration} {a : Assembly} (h : layout.assemble ds = .ok a) :
    a.variants = layout.variants.zipIdx.map (fun (v, i) =>
        ⟨v.name, (v.classified layout.claims ds i).flatMap Prod.snd⟩) ∧
      a.sections.length = layout.sections.length ∧
      (∀ (i : Nat) (mapping : Mapping), layout.sections[i]? = some (.mapped mapping) →
        a.sections[i]? = some (mapping.classified layout.claims ds i)) ∧
      a.unbound = unclaimed layout.claims ds := by
  obtain ⟨-, sections, unbound, built, rfl⟩ := assemble_eq_ok_iff.1 h
  obtain ⟨colorsEq, poolEq⟩ := layout.colors_pool_eq ds
  rw [poolEq] at built
  obtain ⟨left, made, rfl, length, places⟩ := buildSections_unclaimed layout.claims_nodup built
  refine ⟨?_, length, ?_, left⟩
  · rw [blocks, colorsEq, zip_map_zipIdx, List.map_map]
    rfl
  · intro i mapping there
    simpa [claims] using places i mapping there

/-- Laying out in turns is one choice of owners. Each declaration falls to the first matcher that
    selects the name it comes with. The variants and sections are made of these shares in order, what
    is left over is what falls to no one, and there is a sheet of it if there is any. -/
theorem assemble_eq_classified {ds : List Declaration} {a : Assembly}
    (h : layout.assemble ds = .ok a) :
    layout.claims.map Prod.snd = layout.ignored ++ layout.variants.flatMap Variant.selects ++
        layout.sections.flatMap SectionPlan.selects ∧
      a.variants = layout.variants.zipIdx.map (fun (v, i) =>
        ⟨v.name, (v.classified layout.claims ds i).flatMap Prod.snd⟩) ∧
      a.sections.length = layout.sections.length ∧
      (∀ (i : Nat) (mapping : Mapping), layout.sections[i]? = some (.mapped mapping) →
        a.sections[i]? = some (mapping.classified layout.claims ds i)) ∧
      a.unbound = unclaimed layout.claims ds ∧
      a.unbound.length = ds.countP (fun d => owner? layout.claims d = none) ∧
      a.missing? = if a.unbound.length = 0 then none
        else some (inRoot (renderLines (unclaimed layout.claims ds))) := by
  obtain ⟨variants, length, places, left⟩ := assemble_shares h
  refine ⟨layout.claims_matchers, variants, length, places, left, ?_, ?_⟩
  · rw [left, List.countP_eq_length_filter]
    rfl
  · rw [Assembly.missing?, left]
    simp only [List.length_eq_zero_iff]

def overlapping : Layout where
  variants := ["day", "night"].map fun name =>
    let stem := "--" ++ name
    ⟨name, [⟨.literal (stem ++ "-text"), .literal (stem ++ "-text"), "--text", .literal "--text",
        [.textColor]⟩,
      ⟨.literal stem, .literal stem, "--hue", .literal "--hue", [.color]⟩]⟩
  ignored := [.literal "--unit"]
  sections := [.mapped ⟨"Sizes", [.ofStem "--size-unit", .ofStem "--size"], [.text, .spacing], []⟩]
  resets := []

def sample : List Declaration :=
  [⟨"--size-s", "1"⟩, ⟨"--night-text", "white"⟩, ⟨"--unit-size", "4"⟩, ⟨"--day-sky", "blue"⟩,
   ⟨"--day-text", "black"⟩, ⟨"--night-sky", "navy"⟩, ⟨"--size-unit-l", "2"⟩, ⟨"--gap", "3"⟩]

def laidOut : Assembly where
  resets := []
  pointers := [⟨"--text-color", "var(--text)"⟩, ⟨"--color-sky", "var(--hue-sky)"⟩]
  variants :=
    [⟨"day", [⟨"--text", "black"⟩, ⟨"--hue-sky", "blue"⟩]⟩,
     ⟨"night", [⟨"--text", "white"⟩, ⟨"--hue-sky", "navy"⟩]⟩]
  sections :=
    [⟨"Sizes", [⟨"--text-l", "2"⟩, ⟨"--spacing-l", "2"⟩, ⟨"--text-s", "1"⟩, ⟨"--spacing-s", "1"⟩]⟩]
  unbound := [⟨"--gap", "3"⟩]

theorem overlapping_classified : overlapping.assemble sample = .ok laidOut ∧
    laidOut.variants = overlapping.variants.zipIdx.map (fun (v, i) =>
      ⟨v.name, (v.classified overlapping.claims sample i).flatMap Prod.snd⟩) ∧
    laidOut.unbound = unclaimed overlapping.claims sample := by
  have h : overlapping.assemble sample = .ok laidOut := by decide +kernel
  obtain ⟨-, variants, -, -, unbound, -, -⟩ := assemble_eq_classified h
  exact ⟨h, variants, unbound⟩

end Layout

end DesignTokens
