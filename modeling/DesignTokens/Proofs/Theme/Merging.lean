import DesignTokens.Proofs.Theme.Order

namespace DesignTokens

variable {ds pool : List Declaration}

def Declares (ds : List Declaration) (name : List Char) : Prop := ∃ d ∈ ds, d.name.toList = name

theorem Variant.block_nodup_iff {v : Variant} :
    ((v.block pool).items.map Declaration.name).Nodup ↔
      pool.Pairwise fun d e => ∀ x, v.color? d = some x → ∀ y, v.color? e = some y →
        x.2.name ≠ y.2.name := by
  rw [((v.items_perm pool).map _).nodup_iff, List.map_map, List.Nodup, List.pairwise_map,
    Variant.colors, List.pairwise_filterMap]
  rfl

namespace Standard

variable {theme : String} {d : Declaration} {r : List Char} {a : Assembly}

theorem prefix_dashed (start theme : String) (r : List Char) :
    start.toList <+: start.toList ++ theme.toList ++ ['-'] ++ r := by
  rw [List.append_assoc, List.append_assoc]
  exact List.prefix_append _ _

theorem color_kept (name : d.name.toList = colorStem theme ++ r) :
    layout.ignored.any d.isSelectedBy = false := by
  have color : scopeStem <+: d.name.toList := by
    rw [name]
    exact prefix_dashed "--semantic-color-" theme r
  have apart (text : String) (h : ¬text.toList <+: scopeStem ∧ ¬scopeStem <+: text.toList) :
      ¬text.toList <+: d.name.toList := by
    intro begins
    rcases List.prefix_or_prefix_of_prefix begins color with inside | inside
    · exact h.1 inside
    · exact h.2 inside
  have unit := apart "--unit" (by decide)
  have spacing := apart "--spacing-" (by decide)
  have ignored : layout.ignored.any d.isSelectedBy =
      (d.isSelectedBy (.literal "--unit") || d.isSelectedBy screenSpacing) := by
    simp [layout, ignored]
  rw [ignored, Bool.or_eq_false_iff]
  constructor
  · by_contra selected
    exact unit (Matcher.selects_literal.1 (eq_true_of_ne_false selected)).2
  · by_contra selected
    exact spacing (Regex.prefix_of_isMatch (eq_true_of_ne_false selected))

theorem mem_kept_color (hd : d ∈ ds) (name : d.name.toList = colorStem theme ++ r) :
    d ∈ layout.kept ds := Layout.mem_kept.2 ⟨hd, color_kept name⟩

theorem color_of_named (h : Exported d.name.toList) (name : d.name.toList = colorStem theme ++ r) :
    ∃ x i s, (variant theme).color? d = some x ∧ Scoped i r s ∧ x.2.name.toList = scopeStem ++ s := by
  have taken : ((variant theme).color? d).isSome := by
    rw [Variant.color?_isSome, takes_color, name]
    exact List.prefix_append _ _
  obtain ⟨⟨g, e⟩, color⟩ := Option.isSome_iff_exists.1 taken
  obtain ⟨i, r', s, name', -, inScope, renamed⟩ := color_named h color
  obtain rfl := List.append_cancel_left (name.symm.trans name')
  exact ⟨_, i, s, color, inScope, renamed⟩

/-- A variant has two colours of one name exactly if they become one. -/
theorem block_nodup_iff (names : ∀ d ∈ ds, Exported d.name.toList)
    (distinct : (ds.map Declaration.name).Nodup) :
    (((variant theme).block (layout.kept ds)).items.map Declaration.name).Nodup ↔
      ∀ r r', Merged r r' → ¬(Declares ds (colorStem theme ++ r) ∧
        Declares ds (colorStem theme ++ r')) := by
  have kept : ∀ d ∈ layout.kept ds, Exported d.name.toList :=
    fun d hd => names d (Layout.mem_kept.1 hd).1
  rw [Variant.block_nodup_iff]
  constructor
  · rintro apart r r' merged ⟨⟨d, hd, name⟩, e, he, name'⟩
    have ne : d ≠ e := by
      rintro rfl
      exact merged.ne (List.append_cancel_left (name.symm.trans name'))
    obtain ⟨x, i, s, color, inScope, renamed⟩ := color_of_named (names d hd) name
    obtain ⟨y, j, s', color', inScope', renamed'⟩ := color_of_named (names e he) name'
    obtain ⟨k, t, common, common'⟩ := merged.scoped
    have same : x.2.name = y.2.name := by
      apply String.toList_inj.1
      rw [renamed, renamed', inScope.unique common, inScope'.unique common']
    have symmetric : Std.Symm fun d e : Declaration => ∀ x, (variant theme).color? d = some x →
        ∀ y, (variant theme).color? e = some y → x.2.name ≠ y.2.name :=
      ⟨fun d e h x hx y hy same => h y hy x hx same.symm⟩
    exact apart.forall (mem_kept_color hd name) (mem_kept_color he name') ne x color y color' same
  · intro unmerged
    have ownNames : (layout.kept ds).Pairwise fun d e => d.name ≠ e.name := by
      rw [Layout.kept, claimAll_left]
      exact (List.pairwise_map.1 distinct).filter _
    refine ownNames.imp_of_mem fun {d e} hd he other x color y color' same => ?_
    obtain ⟨i, r, s, name, -, inScope, renamed⟩ := color_named (kept d hd) color
    obtain ⟨j, r', s', name', -, inScope', renamed'⟩ := color_named (kept e he) color'
    -- One name in scope, so one place; then the names are the same or one of the merged pairs.
    have core : s = s' := List.append_cancel_left (renamed.symm.trans (same ▸ renamed'))
    subst core
    obtain rfl := inScope.place_eq inScope'
    have first : Declares ds (colorStem theme ++ r) := ⟨d, (Layout.mem_kept.1 hd).1, name⟩
    have second : Declares ds (colorStem theme ++ r') := ⟨e, (Layout.mem_kept.1 he).1, name'⟩
    have spaced := (exported_color (kept d hd) name).1
    have spaced' := (exported_color (kept e he) name').1
    rcases inScope.eq_or_merged inScope' spaced spaced' with rfl | merged | merged
    · exact other (String.toList_inj.1 (name.trans name'.symm))
    · exact unmerged _ _ merged ⟨first, second⟩
    · exact unmerged _ _ merged ⟨second, first⟩

/-- Of colours with names of their own, those that become one in scope are the only ones that the
    block of a variant declares twice. -/
theorem items_nodup_iff (names : ∀ d ∈ ds, Exported d.name.toList)
    (distinct : (ds.map Declaration.name).Nodup) (h : layout.assemble ds = .ok a) :
    a.variants.map VariantBlock.name = themes ∧
      ∀ v ∈ a.variants, (v.items.map Declaration.name).Nodup ↔
        ∀ r r', Merged r r' → ¬(Declares ds (colorStem v.name ++ r) ∧
          Declares ds (colorStem v.name ++ r')) := by
  refine ⟨map_name_variants h, fun v hv => ?_⟩
  rw [variants_eq h] at hv
  simp only [List.mem_cons, List.not_mem_nil, or_false] at hv
  rcases hv with rfl | rfl
  · exact block_nodup_iff names distinct
  · exact block_nodup_iff names distinct

def icons : List Declaration :=
  [⟨"--semantic-color-light-icon-a", "gray"⟩, ⟨"--semantic-color-light-text-icon-a", "black"⟩,
   ⟨"--semantic-color-dark-text-icon-a", "white"⟩, ⟨"--semantic-color-dark-icon-a", "silver"⟩]

theorem icons_merged : (∀ d ∈ icons, Exported d.name.toList) ∧ (icons.map Declaration.name).Nodup ∧
    ∃ a, layout.assemble icons = .ok a ∧
      ∀ v ∈ a.variants, ¬(v.items.map Declaration.name).Nodup := by
  have names : ∀ d ∈ icons, Exported d.name.toList := by decide +kernel
  have distinct : (icons.map Declaration.name).Nodup := by decide
  have made : (layout.assemble icons).map (·.unbound) = .ok [] := by decide +kernel
  obtain ⟨a, h, -⟩ := Layout.exists_of_map_eq_ok made
  refine ⟨names, distinct, a, h, fun v hv apart => ?_⟩
  have declared : ∀ theme ∈ themes, Declares icons (colorStem theme ++ "icon-a".toList) ∧
      Declares icons (colorStem theme ++ "text-icon-a".toList) := by
    unfold Declares
    decide +kernel
  have both := declared v.name (name_mem_themes h v hv)
  exact ((items_nodup_iff names distinct h).2 v hv).1 apart _ _ (.icon "-a".toList) both

def backgrounds : List Declaration :=
  [⟨"--semantic-color-light-background2", "red"⟩, ⟨"--semantic-color-light-background-2", "blue"⟩,
   ⟨"--semantic-color-dark-background2", "red"⟩, ⟨"--semantic-color-dark-background-2", "blue"⟩]

/-- The word of a group is taken from a name also where the name goes on without a dash, and then a
    variant declares one name for two of its colours. -/
theorem backgrounds_merged :
    (∀ d ∈ backgrounds, Exported d.name.toList) ∧ (backgrounds.map Declaration.name).Nodup ∧
      ∃ a, layout.assemble backgrounds = .ok a ∧ ∀ v ∈ a.variants, v.items =
        [⟨"--semantic-color-background-2", "red"⟩, ⟨"--semantic-color-background-2", "blue"⟩] := by
  have names : ∀ d ∈ backgrounds, Exported d.name.toList := by decide +kernel
  have blocks : (layout.assemble backgrounds).map (fun a => a.variants.map VariantBlock.items) = .ok
      [[⟨"--semantic-color-background-2", "red"⟩, ⟨"--semantic-color-background-2", "blue"⟩],
       [⟨"--semantic-color-background-2", "red"⟩, ⟨"--semantic-color-background-2", "blue"⟩]] := by
    decide +kernel
  obtain ⟨a, h, found⟩ := Layout.exists_of_map_eq_ok blocks
  refine ⟨names, by decide, a, h, fun v hv => ?_⟩
  have items : v.items ∈ a.variants.map VariantBlock.items := List.mem_map_of_mem hv
  rw [found] at items
  simpa using items

end Standard

end DesignTokens
