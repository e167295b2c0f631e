import DesignTokens.Proofs.Theme.Scope

namespace DesignTokens

variable {d e : Declaration}

namespace Declaration

theorem name_replaceStem_congr (same : d.name = e.name) (m : Matcher) (stem : String) :
    (d.replaceStem m stem).name = (e.replaceStem m stem).name := by
  have removed : (d.removeStem m).name = (e.removeStem m).name := by
    unfold removeStem
    rw [same]
    dsimp only
    split
    · exact same
    · rfl
  unfold replaceStem addStem
  rw [removed]
  split
  · exact removed
  · split <;> rfl

theorem pointTo_congr (same : d.name = e.name) (m : Matcher) (stem : String) :
    (d.replaceStem m stem).pointTo d.name.toList = (e.replaceStem m stem).pointTo e.name.toList := by
  rw [pointTo, pointTo, name_replaceStem_congr same, same]

end Declaration

namespace ColorGroup

variable {group group' : ColorGroup}

theorem pointers_congr (strip : group.pointerStrip = group'.pointerStrip)
    (targets : group.pointerTargets = group'.pointerTargets) (same : d.name = e.name) :
    group.pointers [d] = group'.pointers [e] := by
  simp only [pointers, DesignTokens.pointers, strip, targets, List.flatMap_cons, List.flatMap_nil,
    List.append_nil]
  exact List.map_congr_left fun target _ => Declaration.pointTo_congr same _ _

end ColorGroup

theorem pointers_flatten (groups : List (ColorGroup × List Declaration)) :
    (groups.flatMap fun (group, items) => group.pointers items) =
      (groups.flatMap fun (group, items) => items.map (group, ·)).flatMap
        fun (group, d) => group.pointers [d] := by
  rw [List.flatMap_assoc]
  refine List.flatMap_congr fun (group, items) _ => ?_
  rw [List.flatMap_map]
  simp [ColorGroup.pointers, pointers]

theorem Variant.mem_pointers {v : Variant} {pool : List Declaration} {p : Declaration} :
    p ∈ ((v.run pool).1.flatMap fun (group, items) => group.pointers items) ↔
      ∃ entry ∈ v.colors pool, p ∈ entry.1.pointers [entry.2] := by
  rw [pointers_flatten, List.mem_flatMap]
  simp only [(v.run_perm pool).mem_iff]

theorem Variant.declares_block {v : Variant} {pool : List Declaration} {name : String} :
    (v.block pool).declares name = true ↔ ∃ entry ∈ v.colors pool, entry.2.name = name := by
  rw [VariantBlock.declares, List.any_eq_true]
  simp only [(v.items_perm pool).mem_iff, List.mem_map, decide_eq_true_iff]
  constructor
  · rintro ⟨_, ⟨entry, present, rfl⟩, same⟩
    exact ⟨entry, present, same⟩
  · rintro ⟨entry, present, same⟩
    exact ⟨_, ⟨entry, present, rfl⟩, same⟩

namespace Standard

theorem pointer_parts {theme theme' : String} {i : Nat} {g g' : ColorGroup}
    (there : (colorGroups theme)[i]? = some g) (there' : (colorGroups theme')[i]? = some g') :
    g.pointerStrip = g'.pointerStrip ∧ g.pointerTargets = g'.pointerTargets := by
  match i with
  | 0 | 1 | 2 | 3 =>
    cases there
    cases there'
    exact ⟨rfl, rfl⟩
  | i + 4 => cases there

variable {theme theme' : String} {pool ds : List Declaration}

theorem pointers_of_declares (names : ∀ d ∈ pool, Exported d.name.toList)
    (same : ∀ name,
      ((variant theme).block pool).declares name = ((variant theme').block pool).declares name)
    {p : Declaration}
    (hp : p ∈ (((variant theme).run pool).1.flatMap fun (group, items) => group.pointers items)) :
    p ∈ (((variant theme').run pool).1.flatMap fun (group, items) => group.pointers items) := by
  obtain ⟨⟨group, d⟩, present, hp⟩ := Variant.mem_pointers.1 hp
  have declared := same d.name ▸ Variant.declares_block.2 ⟨_, present, rfl⟩
  obtain ⟨⟨group', d'⟩, present', name⟩ := Variant.declares_block.1 declared
  obtain ⟨e, he, color⟩ := List.mem_filterMap.1 present
  obtain ⟨e', he', color'⟩ := List.mem_filterMap.1 present'
  obtain ⟨i, r, s, -, there, inScope, renamed⟩ := color_named (names e he) color
  obtain ⟨j, r', s', -, there', inScope', renamed'⟩ := color_named (names e' he') color'
  -- One name in scope, so one place among the groups.
  have core : s = s' := List.append_cancel_left (renamed.symm.trans (name ▸ renamed'))
  subst core
  obtain rfl := inScope.place_eq inScope'
  obtain ⟨strip, targets⟩ := pointer_parts there there'
  have pointers : group.pointers [d] = group'.pointers [d'] :=
    ColorGroup.pointers_congr strip targets name.symm
  exact Variant.mem_pointers.2 ⟨_, present', pointers ▸ hp⟩

theorem layout_supplied : Supplied [] layout.sections := by
  simp [layout, sections, Supplied, stemMapping, typeScale]

/-- The order of the variants decides only the order of their blocks: pointers, sections and what is
    left over are the same, and an assembly fails, for variants that differ, whatever their order. -/
theorem assemble_reversed (names : ∀ d ∈ ds, Exported d.name.toList) :
    (∃ a b, layout.assemble ds = .ok a ∧ layout.reversed.assemble ds = .ok b ∧
      (∀ p, p ∈ a.pointers ↔ p ∈ b.pointers) ∧ b.resets = a.resets ∧ b.sections = a.sections ∧
      b.variants = a.variants.reverse ∧ b.unbound = a.unbound ∧ b.missing? = a.missing?) ∨
    ∃ issues others, layout.assemble ds = .error (.mismatch issues) ∧
      layout.reversed.assemble ds = .error (.mismatch others) := by
  have apart := layout_apart ds
  have kept : ∀ d ∈ layout.kept ds, Exported d.name.toList :=
    fun d hd => names d (Layout.mem_kept.1 hd).1
  have light : layout.pointers ds = (((variant "light").run (layout.kept ds)).1.flatMap
      fun (group, items) => group.pointers items) := by
    rw [Layout.pointers, apart.colors]
    rfl
  have dark : layout.reversed.pointers ds = (((variant "dark").run (layout.kept ds)).1.flatMap
      fun (group, items) => group.pointers items) := by
    rw [Layout.pointers, apart.reversed.colors]
    rfl
  rcases Layout.assemble_of_reversed apart layout_supplied with
    ⟨a, b, first, second, ofFirst, ofSecond, resets, variants, sections, unbound⟩ | failed
  · have uniform := checkUniform_eq_ok_iff.1 (Layout.assemble_eq_ok_iff.1 first).1
    rw [apart.blocks, layout_variants] at uniform
    have same := uniform ((variant "light").block (layout.kept ds)) (by simp)
      ((variant "dark").block (layout.kept ds)) (by simp)
    refine .inl ⟨a, b, first, second, fun p => ?_, resets, sections, variants, unbound, ?_⟩
    · rw [ofFirst, ofSecond, light, dark]
      constructor
      · exact pointers_of_declares kept same
      · exact pointers_of_declares kept fun name => (same name).symm
    · rw [Assembly.missing?, Assembly.missing?, unbound]
  · exact .inr failed

def swatches : List Declaration :=
  [⟨"--semantic-color-dark-icon-a", "silver"⟩, ⟨"--semantic-color-light-border", "red"⟩,
   ⟨"--shadow", "'soft'"⟩, ⟨"--semantic-color-light-icon-a", "gray"⟩,
   ⟨"--semantic-color-dark-border", "pink"⟩]

theorem swatches_reversed : (∀ d ∈ swatches, Exported d.name.toList) ∧
    ∃ a b, layout.assemble swatches = .ok a ∧ layout.reversed.assemble swatches = .ok b ∧
      (∀ p, p ∈ a.pointers ↔ p ∈ b.pointers) ∧ b.variants = a.variants.reverse ∧
      a.pointers.map Declaration.name = ["--text-color-icon-a", "--border-color", "--ring-color"] ∧
      b.unbound = [⟨"--shadow", "'soft'"⟩] := by
  have names : ∀ d ∈ swatches, Exported d.name.toList := by decide +kernel
  have painted :
      (layout.assemble swatches).map (fun a => (a.pointers.map Declaration.name, a.unbound)) = .ok
        (["--text-color-icon-a", "--border-color", "--ring-color"], [⟨"--shadow", "'soft'"⟩]) := by
    decide +kernel
  obtain ⟨a, first, found⟩ := Layout.exists_of_map_eq_ok painted
  obtain ⟨targets, leftover⟩ := Prod.mk.inj found
  rcases assemble_reversed names with
    ⟨a', b, first', second, pointers, -, -, variants, unbound, -⟩ | ⟨_, _, failed, -⟩
  · obtain rfl := Except.ok.inj (first.symm.trans first')
    exact ⟨names, a, b, first, second, pointers, variants, targets, unbound.trans leftover⟩
  · rw [first] at failed
    cases failed

end Standard

end DesignTokens
