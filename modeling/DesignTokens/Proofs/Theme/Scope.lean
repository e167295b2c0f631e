import DesignTokens.Proofs.Pattern.Anchored
import DesignTokens.Proofs.Theme.Exported
import DesignTokens.Proofs.Theme.Restemming
import DesignTokens.Proofs.Theme.Variants
import DesignTokens.Theme.Standard

namespace DesignTokens

open Declaration (Stem dropDashes normalName)

namespace Declaration

theorem isSelectedBy_either {d : Declaration} {m n : Matcher} :
    d.isSelectedBy (.oneOf [m, n]) = true ↔ d.isSelectedBy m = true ∨ d.isSelectedBy n = true := by
  rw [isSelectedBy, Matcher.selects, Matcher.anySelects, Matcher.anySelects, Matcher.anySelects,
    Bool.or_false, Bool.or_eq_true]
  rfl

end Declaration

namespace Standard

def colorStem (theme : String) : List Char := "--semantic-color-".toList ++ theme.toList ++ ['-']

def scopeStem : List Char := "--semantic-color-".toList

def groupWords : List (Nat × List Char) :=
  [(0, "background".toList), (1, "text".toList), (2, "border".toList)]

/-- In the group at place `i`, the colour that is called `r` behind the stem of its variant is
    called `s` behind the stem of the scope. -/
inductive Scoped : Nat → List Char → List Char → Prop
  | word {i : Nat} {word : List Char} (h : (i, word) ∈ groupWords) (rest : List Char) :
    Scoped i (word ++ rest) (behind word (dropDashes rest))
  | icon (rest : List Char) : Scoped 1 ("icon".toList ++ rest) ("text-icon".toList ++ rest)
  | other {r : List Char} (noWord : ∀ entry ∈ groupWords, ¬entry.2 <+: r)
    (noIcon : ¬"icon".toList <+: r) : Scoped 3 r r

variable {theme : String} {g : ColorGroup} {d : Declaration} {r s core : List Char} {i j : Nat}

theorem colorStem_ne_nil (theme : String) : colorStem theme ≠ [] :=
  List.append_ne_nil_of_right_ne_nil _ (List.cons_ne_nil _ _)

theorem toList_dashed (start theme : String) {word : String} (dash : word.toList = '-' :: core) :
    (start ++ theme ++ word).toList = start.toList ++ theme.toList ++ ['-'] ++ core := by
  simp [dash]

theorem dashed_append (start theme : String) (r : List Char) :
    start.toList ++ theme.toList ++ ['-'] ++ r = (start ++ theme).toList ++ '-' :: r := by
  simp

theorem toList_color {word : String} (dash : word.toList = '-' :: core) :
    ("--semantic-color-" ++ theme ++ word).toList = colorStem theme ++ core :=
  toList_dashed _ theme dash

theorem selects_color {word : String} (dash : word.toList = '-' :: core) {name : List Char} :
    (Matcher.literal ("--semantic-color-" ++ theme ++ word)).selects name = true ↔
      colorStem theme ++ core <+: name := by
  have ne : colorStem theme ++ core ≠ [] :=
    List.append_ne_nil_of_left_ne_nil (colorStem_ne_nil theme) _
  rw [Matcher.selects_literal, toList_color dash, and_iff_right ne]

theorem strip_color {word : String} (dash : word.toList = '-' :: core) (rest : List Char) :
    (Matcher.literal ("--semantic-color-" ++ theme ++ word)).strip (colorStem theme ++ core ++ rest) =
      rest := by
  have ne : colorStem theme ++ core ≠ [] :=
    List.append_ne_nil_of_left_ne_nil (colorStem_ne_nil theme) _
  rw [← toList_color dash] at ne ⊢
  exact Matcher.strip_literal ne rest

def kinds : List (List Char) := "icon".toList :: groupWords.map Prod.snd

theorem kind_eq {u v : List Char} (hu : u ∈ kinds) (hv : v ∈ kinds) (first : u <+: r)
    (second : v <+: r) : u = v := by
  have apart : ∀ u ∈ kinds, ∀ v ∈ kinds, u <+: v → u = v := by decide
  rcases List.prefix_or_prefix_of_prefix first second with h | h
  · exact apart u hu v hv h
  · exact (apart v hv u hu h).symm

theorem mem_kinds {word : List Char} (h : (i, word) ∈ groupWords) : word ∈ kinds :=
  List.mem_cons_of_mem _ (List.mem_map_of_mem h)

theorem place_lt_three {word : List Char} (h : (i, word) ∈ groupWords) : i < 3 := by
  have bound : ∀ entry ∈ groupWords, entry.1 < 3 := by decide
  exact bound (i, word) h

theorem dropDashes_icon (rest : List Char) :
    Declaration.dropDashes ("icon".toList ++ rest) = "icon".toList ++ rest := rfl

theorem behind_icon (rest : List Char) :
    "text-icon".toList ++ rest = behind "text".toList ("icon".toList ++ rest) := rfl

theorem selects_group (name : d.name.toList = colorStem theme ++ r)
    (there : (colorGroups theme)[i]? = some g) :
    d.isSelectedBy g.select = true ↔
      (∃ word, (i, word) ∈ groupWords ∧ word <+: r) ∨ i = 1 ∧ "icon".toList <+: r ∨ i = 3 := by
  have literal (word : String) (core : List Char) (dash : word.toList = '-' :: core) :
      d.isSelectedBy (.literal ("--semantic-color-" ++ theme ++ word)) = true ↔ core <+: r := by
    rw [Declaration.isSelectedBy, selects_color dash, name, List.prefix_append_right_inj]
  match i with
  | 0 =>
    cases there
    simpa [groupWords] using literal "-background" "background".toList (by decide)
  | 1 =>
    have text := literal "-text" "text".toList (by decide)
    have icon := literal "-icon" "icon".toList (by decide)
    cases there
    rw [Declaration.isSelectedBy_either]
    simpa [groupWords] using or_congr text icon
  | 2 =>
    cases there
    simpa [groupWords] using literal "-border" "border".toList (by decide)
  | 3 =>
    cases there
    simpa [groupWords] using literal "-" [] (by decide)
  | i + 4 => cases there

theorem strip_textStem (theme : String) (r : List Char) :
    (textStem theme).strip (colorStem theme ++ r) =
      if "text".toList <+: r then r.drop "text".toList.length else r := by
  have pattern : textStem theme = .pattern
      ("^--semantic-color-" ++ Regex.escape theme ++ "-(text)?")
      (Regex.stem ("--semantic-color-" ++ theme ++ "-") "text") := rfl
  have text : ("--semantic-color-" ++ theme ++ "-").toList = colorStem theme :=
    (toList_color (by decide)).trans (List.append_nil _)
  have characters : ("--semantic-color-" ++ theme ++ "-").toList ≠ [] :=
    text ▸ colorStem_ne_nil theme
  rw [pattern, Matcher.strip, Matcher.rest?, Regex.leading?_stem characters (by decide), text,
    if_pos (List.prefix_append _ _), List.drop_left, Option.getD_some]

theorem length_lt_color (name : d.name.toList = colorStem theme ++ r) {rest : List Char}
    (shorter : rest.length ≤ r.length) : rest.length < d.name.toList.length := by
  have positive := List.length_pos_iff.2 (colorStem_ne_nil theme)
  rw [name, List.length_append]
  omega

theorem name_replaceStem_word {word scope : String} {rest : List Char}
    (name : d.name.toList = colorStem theme ++ (core ++ rest)) (dash : word.toList = '-' :: core)
    (stem : Declaration.Stem scope.toList) (within : scope.toList = scopeStem ++ core)
    (ink : ∀ c ∈ rest, Text.isBlank c = false) :
    (d.replaceStem (.literal ("--semantic-color-" ++ theme ++ word)) scope).name.toList =
      scopeStem ++ behind core (dropDashes rest) := by
  rw [← behind_append, ← within]
  apply Declaration.name_replaceStem_strip stem
  · rw [name, ← List.append_assoc, strip_color dash]
  · exact length_lt_color name (by simp)
  · exact ink

theorem name_replaceStem_text {rest : List Char} (name : d.name.toList = colorStem theme ++ r)
    (left : (if "text".toList <+: r then r.drop "text".toList.length else r) = rest)
    (ink : ∀ c ∈ rest, Text.isBlank c = false) :
    (d.replaceStem (textStem theme) "--semantic-color-text").name.toList =
      scopeStem ++ behind "text".toList (dropDashes rest) := by
  have within : "--semantic-color-text".toList = scopeStem ++ "text".toList := by decide
  rw [← behind_append, ← within]
  apply Declaration.name_replaceStem_strip (by decide)
  · rw [name, strip_textStem, left]
  · apply length_lt_color name
    subst left
    split
    · rw [List.length_drop]
      exact Nat.sub_le _ _
    · exact le_rfl
  · exact ink

theorem name_replaceStem_other (name : d.name.toList = colorStem theme ++ r) (ne : r ≠ [])
    (noDash : r.head? ≠ some '-') (ink : ∀ c ∈ r, Text.isBlank c = false) :
    (d.replaceStem (.literal ("--semantic-color-" ++ theme)) "--semantic-color").name.toList =
      scopeStem ++ r := by
  have within : scopeStem = "--semantic-color".toList ++ ['-'] := by decide
  have core : Declaration.dropDashes ('-' :: r) = r := by
    obtain ⟨c, t, rfl⟩ := List.exists_cons_of_ne_nil ne
    have other : c ≠ '-' := by simpa using noDash
    simp [Declaration.dropDashes, other]
  have stem : ("--semantic-color-" ++ theme).toList ≠ [] := by simp
  have split : d.name.toList = ("--semantic-color-" ++ theme).toList ++ '-' :: r :=
    name.trans (dashed_append _ _ _)
  have renamed :
      (d.replaceStem (.literal ("--semantic-color-" ++ theme)) "--semantic-color").name.toList =
        behind "--semantic-color".toList (Declaration.dropDashes ('-' :: r)) := by
    apply Declaration.name_replaceStem_strip (by decide)
    · rw [split, Matcher.strip_literal stem]
    · have positive := List.length_pos_iff.2 stem
      rw [split, List.length_append]
      omega
    · exact List.forall_mem_cons.2 ⟨by decide, ink⟩
  rw [renamed, core, behind_of_ne_nil ne, within, List.append_assoc, List.singleton_append]

theorem exported_color (h : Exported d.name.toList) (name : d.name.toList = colorStem theme ++ r) :
    Spaced r ∧ r ≠ [] ∧ r.head? ≠ some '-' := by
  have front : colorStem theme ++ r =
      '-' :: '-' :: ("semantic-color-".toList ++ theme.toList) ++ '-' :: r := by
    have whole := dashed_append "--semantic-color-" theme r
    have dashes : "--semantic-color-" = "--" ++ "semantic-color-" := by decide
    rw [String.toList_append, dashes, String.toList_append] at whole
    exact whole
  have behind := (front ▸ name ▸ h).rest
  exact ⟨behind.suffix (List.suffix_cons '-' r), Spaced.behind_dash (s := []) behind⟩

theorem scoped_of_group (h : Exported d.name.toList) (name : d.name.toList = colorStem theme ++ r)
    (found : (colorGroups theme).find? (fun g => d.isSelectedBy g.select) = some g) :
    ∃ i s, (colorGroups theme)[i]? = some g ∧ Scoped i r s ∧
      (d.replaceStem g.strip g.scope).name.toList = scopeStem ++ s := by
  obtain ⟨spaced, ne, noDash⟩ := exported_color h name
  have ink := spaced.not_blank
  obtain ⟨selected, i, bound, there, earlier⟩ := List.find?_eq_some_iff_getElem.1 found
  have there : (colorGroups theme)[i]? = some g := List.getElem?_eq_some_iff.2 ⟨bound, there⟩
  refine ⟨i, ?_⟩
  -- A colour called by the word of its group, an icon, or one that the first three groups leave.
  rcases (selects_group name there).1 selected with
    ⟨word, listed, rest, rfl⟩ | ⟨rfl, rest, rfl⟩ | rfl
  · refine ⟨_, there, .word listed rest, ?_⟩
    have inner : ∀ c ∈ rest, Text.isBlank c = false :=
      fun c hc => ink c (List.mem_append_right _ hc)
    simp only [groupWords, List.mem_cons, Prod.mk.injEq, List.not_mem_nil, or_false] at listed
    rcases listed with ⟨rfl, rfl⟩ | ⟨rfl, rfl⟩ | ⟨rfl, rfl⟩
    · have within : "--semantic-color-background".toList = scopeStem ++ "background".toList := by
        decide
      cases there
      exact name_replaceStem_word name (by decide) (within ▸ by decide) within inner
    · cases there
      exact name_replaceStem_text name (by simp) inner
    · have within : "--semantic-color-border".toList = scopeStem ++ "border".toList := by decide
      cases there
      exact name_replaceStem_word name (by decide) (within ▸ by decide) within inner
  · refine ⟨_, there, .icon rest, ?_⟩
    cases there
    have noText : ¬"text".toList <+: "icon".toList ++ rest := fun text =>
      absurd (kind_eq (by decide) (by decide) text (List.prefix_append _ _)) (by decide)
    -- Only the stem is stripped from an icon, so its own word comes behind that of its group.
    rw [behind_icon rest, ← dropDashes_icon rest]
    exact name_replaceStem_text name (if_neg noText) ink
  · have unclaimed {j : Nat} (hj : j < 3) :
        ∃ g', (colorGroups theme)[j]? = some g' ∧ ¬d.isSelectedBy g'.select = true :=
      ⟨_, List.getElem?_eq_getElem (hj.trans bound), by simpa using earlier j hj⟩
    refine ⟨r, there, .other ?_ ?_, ?_⟩
    · intro entry listed word
      obtain ⟨g', before, free⟩ := unclaimed (place_lt_three listed)
      exact free ((selects_group name before).2 (.inl ⟨_, listed, word⟩))
    · intro icon
      obtain ⟨g', before, free⟩ := unclaimed (j := 1) (by decide)
      exact free ((selects_group name before).2 (.inr (.inl ⟨rfl, icon⟩)))
    · cases there
      exact name_replaceStem_other name ne noDash ink

def variant (theme : String) : Variant := ⟨theme, colorGroups theme⟩

theorem takes_color : (variant theme).takes d = true ↔ colorStem theme <+: d.name.toList := by
  have literal (word : String) (core : List Char) (dash : word.toList = '-' :: core) :
      d.isSelectedBy (.literal ("--semantic-color-" ++ theme ++ word)) = true ↔
        colorStem theme ++ core <+: d.name.toList := selects_color dash
  have background := literal "-background" "background".toList (by decide)
  have text := literal "-text" "text".toList (by decide)
  have icon := literal "-icon" "icon".toList (by decide)
  have border := literal "-border" "border".toList (by decide)
  have other := literal "-" [] (by decide)
  rw [List.append_nil] at other
  have unfolded : (variant theme).takes d = true ↔
      d.isSelectedBy (.literal ("--semantic-color-" ++ theme ++ "-background")) = true ∨
      d.isSelectedBy (.oneOf [.literal ("--semantic-color-" ++ theme ++ "-text"),
        .literal ("--semantic-color-" ++ theme ++ "-icon")]) = true ∨
      d.isSelectedBy (.literal ("--semantic-color-" ++ theme ++ "-border")) = true ∨
      d.isSelectedBy (.literal ("--semantic-color-" ++ theme ++ "-")) = true := by
    simp [Variant.takes, variant, colorGroups]
  rw [unfolded, Declaration.isSelectedBy_either, background, text, icon, border, other]
  constructor
  · rintro (h | (h | h) | h | h)
    · exact (List.prefix_append _ _).trans h
    · exact (List.prefix_append _ _).trans h
    · exact (List.prefix_append _ _).trans h
    · exact (List.prefix_append _ _).trans h
    · exact h
  · exact fun h => .inr (.inr (.inr h))

theorem layout_variants : layout.variants = [variant "light", variant "dark"] := rfl

theorem layout_apart (ds : List Declaration) : layout.Apart ds := by
  rw [Layout.Apart, layout_variants, List.pairwise_pair]
  intro d _ light
  by_contra dark
  have light := takes_color.1 light
  have dark := takes_color.1 (by simpa using dark)
  have apart : ¬colorStem "light" <+: colorStem "dark" ∧
      ¬colorStem "dark" <+: colorStem "light" := by
    decide
  rcases List.prefix_or_prefix_of_prefix light dark with h | h
  · exact apart.1 h
  · exact apart.2 h

theorem variants_eq {ds : List Declaration} {a : Assembly} (h : layout.assemble ds = .ok a) :
    a.variants =
      [(variant "light").block (layout.kept ds), (variant "dark").block (layout.kept ds)] := by
  obtain ⟨-, sections, unbound, -, rfl⟩ := Layout.assemble_eq_ok_iff.1 h
  dsimp only
  rw [(layout_apart ds).blocks, layout_variants, List.map_cons, List.map_cons, List.map_nil]

theorem map_name_variants {ds : List Declaration} {a : Assembly} (h : layout.assemble ds = .ok a) :
    a.variants.map VariantBlock.name = themes := by
  rw [variants_eq h]
  rfl

theorem name_mem_themes {ds : List Declaration} {a : Assembly} (h : layout.assemble ds = .ok a) :
    ∀ v ∈ a.variants, v.name ∈ themes :=
  fun _ hv => map_name_variants h ▸ List.mem_map_of_mem hv

theorem color_named (h : Exported d.name.toList) {e : Declaration}
    (color : (variant theme).color? d = some (g, e)) :
    ∃ i r s, d.name.toList = colorStem theme ++ r ∧ (colorGroups theme)[i]? = some g ∧
      Scoped i r s ∧ e.name.toList = scopeStem ++ s := by
  have taken : (variant theme).takes d = true := by
    rw [← Variant.color?_isSome, color]
    rfl
  obtain ⟨r, name⟩ := takes_color.1 taken
  obtain ⟨group, found, same⟩ := Option.map_eq_some_iff.1 color
  cases same
  obtain ⟨i, s, there, inScope, renamed⟩ := scoped_of_group h name.symm found
  exact ⟨i, r, s, name.symm, there, inScope, renamed⟩

theorem prefix_behind (word core : List Char) : word <+: behind word core := by
  unfold behind
  split
  · exact List.prefix_rfl
  · exact List.prefix_append _ _

theorem behind_injective {word t : List Char} (h : behind word s = behind word t) : s = t := by
  unfold behind at h
  split at h <;> split at h <;> simp_all

theorem groupWords_eq {word : List Char} (h : (i, word) ∈ groupWords) (h' : (j, word) ∈ groupWords) :
    i = j := by
  have apart : ∀ e ∈ groupWords, ∀ f ∈ groupWords, e.2 = f.2 → e.1 = f.1 := by decide
  exact apart _ h _ h' rfl

theorem word_eq {u v : List Char} (h : (i, u) ∈ groupWords) (h' : (i, v) ∈ groupWords) : u = v := by
  have apart : ∀ e ∈ groupWords, ∀ f ∈ groupWords, e.1 = f.1 → e.2 = f.2 := by decide
  exact apart _ h _ h' rfl

theorem word_ne_icon {word rest rest' : List Char} (h : (i, word) ∈ groupWords) :
    word ++ rest ≠ "icon".toList ++ rest' := by
  intro same
  have noIcon : ∀ entry ∈ groupWords, entry.2 ≠ "icon".toList := by decide
  exact noIcon _ h (kind_eq (mem_kinds h) (by decide) (List.prefix_append _ rest)
    (same ▸ List.prefix_append _ rest'))

namespace Scoped

theorem begins (h : Scoped i r s) : (∃ word, (i, word) ∈ groupWords ∧ word <+: s) ∨
    i = 3 ∧ ∀ entry ∈ groupWords, ¬entry.2 <+: s := by
  cases h with
  | word listed rest => exact .inl ⟨_, listed, prefix_behind _ _⟩
  | icon rest => exact .inl ⟨"text".toList, by decide, behind_icon rest ▸ prefix_behind _ _⟩
  | other noWord _ => exact .inr ⟨rfl, noWord⟩

theorem place_eq {r' : List Char} (h : Scoped i r s) (h' : Scoped j r' s) : i = j := by
  rcases h.begins with ⟨word, listed, first⟩ | ⟨rfl, none⟩
  · rcases h'.begins with ⟨word', listed', second⟩ | ⟨rfl, none⟩
    · obtain rfl := kind_eq (mem_kinds listed) (mem_kinds listed') first second
      exact groupWords_eq listed listed'
    · exact absurd first (none _ listed)
  · rcases h'.begins with ⟨word', listed', second⟩ | ⟨rfl, -⟩
    · exact absurd second (none _ listed')
    · rfl

theorem unique {s' : List Char} (h : Scoped i r s) (h' : Scoped j r s') : s = s' := by
  generalize same : r = r' at h'
  cases h with
  | word listed rest =>
    cases h' with
    | word listed' rest' =>
      obtain rfl := kind_eq (mem_kinds listed) (mem_kinds listed') (List.prefix_append _ rest)
        (same ▸ List.prefix_append _ rest')
      rw [List.append_cancel_left same]
    | icon rest' => exact absurd same (word_ne_icon listed)
    | other noWord _ => exact absurd (same ▸ List.prefix_append _ rest) (noWord _ listed)
  | icon rest =>
    cases h' with
    | word listed' rest' => exact absurd same.symm (word_ne_icon listed')
    | icon rest' => rw [List.append_cancel_left same]
    | other _ noIcon => exact absurd (same ▸ List.prefix_append _ rest) noIcon
  | other noWord noIcon =>
    cases h' with
    | word listed' rest' => exact absurd (same ▸ List.prefix_append _ rest') (noWord _ listed')
    | icon rest' => exact absurd (same ▸ List.prefix_append _ rest') noIcon
    | other _ _ => exact same

end Scoped

/-- Two names of colours that become one in scope: a dash behind the word of a group is dropped, and
    an icon is called like a text that is called icon. -/
inductive Merged : List Char → List Char → Prop
  | dash {i : Nat} {word : List Char} (h : (i, word) ∈ groupWords) (rest : List Char) :
    Merged (word ++ rest) (word ++ '-' :: rest)
  | icon (rest : List Char) : Merged ("icon".toList ++ rest) ("text-icon".toList ++ rest)
  | glued (rest : List Char) : Merged ("icon".toList ++ rest) ("texticon".toList ++ rest)

theorem Merged.ne {r' : List Char} (h : Merged r r') : r ≠ r' := by
  intro same
  have length := congrArg List.length same
  cases h <;> simp at length

theorem Merged.scoped {r' : List Char} (h : Merged r r') : ∃ i s, Scoped i r s ∧ Scoped i r' s := by
  have text : (1, "text".toList) ∈ groupWords := by decide
  cases h with
  | dash listed rest => exact ⟨_, _, .word listed rest, .word listed ('-' :: rest)⟩
  | icon rest => exact ⟨1, _, .icon rest, .word text ("-icon".toList ++ rest)⟩
  | glued rest => exact ⟨1, _, .icon rest, .word text ("icon".toList ++ rest)⟩

theorem eq_or_merged_of_word {word rest rest' : List Char} (listed : (i, word) ∈ groupWords)
    (spaced : Spaced (word ++ rest)) (spaced' : Spaced (word ++ rest'))
    (core : Declaration.dropDashes rest = Declaration.dropDashes rest') :
    word ++ rest = word ++ rest' ∨ Merged (word ++ rest) (word ++ rest') ∨
      Merged (word ++ rest') (word ++ rest) := by
  have one := (spaced.suffix (List.suffix_append _ rest)).dropDashes_cases
  have other := (spaced'.suffix (List.suffix_append _ rest')).dropDashes_cases
  rw [← core] at other
  generalize Declaration.dropDashes rest = inner at one other
  rcases one with rfl | rfl
  · rcases other with rfl | rfl
    · exact .inl rfl
    · exact .inr (.inl (.dash listed rest))
  · rcases other with rfl | rfl
    · exact .inr (.inr (.dash listed rest'))
    · exact .inl rfl

theorem merged_of_text {rest rest' : List Char} (spaced : Spaced ("text".toList ++ rest'))
    (same : behind "text".toList (Declaration.dropDashes rest') = "text-icon".toList ++ rest) :
    Merged ("icon".toList ++ rest) ("text".toList ++ rest') := by
  have core : Declaration.dropDashes rest' = "icon".toList ++ rest :=
    behind_injective (same.trans (behind_icon rest))
  rcases (spaced.suffix (List.suffix_append _ rest')).dropDashes_cases with kept | dropped
  · rw [kept, core]
    exact .glued rest
  · rw [dropped, core]
    exact .icon rest

/-- Colours of one place with the same name in scope have the same name in their variant, or names
    that become one. -/
theorem Scoped.eq_or_merged {r' : List Char} (h : Scoped i r s) (h' : Scoped i r' s)
    (spaced : Spaced r) (spaced' : Spaced r') : r = r' ∨ Merged r r' ∨ Merged r' r := by
  have text {word : List Char} (listed : (1, word) ∈ groupWords) : word = "text".toList :=
    word_eq listed (by decide)
  generalize same : s = s' at h'
  cases h with
  | word listed rest =>
    cases h' with
    | word listed' rest' =>
      obtain rfl := word_eq listed listed'
      exact eq_or_merged_of_word listed spaced spaced' (behind_injective same)
    | icon rest' =>
      obtain rfl := text listed
      exact .inr (.inr (merged_of_text spaced same))
    | other => exact absurd (place_lt_three listed) (lt_irrefl 3)
  | icon rest =>
    cases h' with
    | word listed' rest' =>
      obtain rfl := text listed'
      exact .inr (.inl (merged_of_text spaced' same.symm))
    | icon rest' => exact .inl (by rw [List.append_cancel_left same])
  | other noWord noIcon =>
    cases h' with
    | word listed' rest' => exact absurd (place_lt_three listed') (lt_irrefl 3)
    | other _ _ => exact .inl same

end Standard

end DesignTokens
