import DesignTokens.Proofs.Theme.Classification
import DesignTokens.Proofs.Theme.Name
import DesignTokens.Theme.Standard

namespace DesignTokens

/-- A pointer that is due: the colour it stands for, with the group that claimed the colour, and the
    namespace it goes into. -/
structure Link where
  group : ColorGroup
  source : Declaration
  target : Namespace

namespace Link

def name (l : Link) : String := (l.source.replaceStem l.group.pointerStrip l.target.stem).name

def pointer (l : Link) : Declaration := ⟨l.name, "var(" ++ l.source.name ++ ")"⟩

theorem stem_prefix_name (l : Link) : l.target.stem.toList <+: l.name.toList :=
  (l.target.stem_isStem.name_replaceStem l.source l.group.pointerStrip).2

theorem lines_pointer (ls : List Link) : ThemeBlock.lines (ls.map pointer) =
    String.join (ls.map fun l => l.name ++ ": var(" ++ l.source.name ++ ");\n") := by
  have opening : ": var(" = ": " ++ "var(" := rfl
  have closing : ");\n" = ")" ++ ";" ++ "\n" := rfl
  have line (l : Link) : ThemeBlock.line l.pointer.render =
      l.name ++ ": var(" ++ l.source.name ++ ");\n" := by
    simp only [ThemeBlock.line, Declaration.render, pointer, opening, closing, String.append_assoc]
  rw [ThemeBlock.lines, List.map_map]
  exact congrArg String.join (List.map_congr_left fun l _ => line l)

end Link

def links (groups : List (ColorGroup × List Declaration)) : List Link :=
  groups.flatMap fun (group, items) =>
    items.flatMap fun d => group.pointerTargets.map fun target => ⟨group, d, target⟩

variable {groups : List (ColorGroup × List Declaration)}

theorem Link.mem_source {l : Link} (h : l ∈ links groups) :
    ∃ items, (l.group, items) ∈ groups ∧ l.source ∈ items := by
  obtain ⟨⟨group, items⟩, present, hl⟩ := List.mem_flatMap.1 h
  obtain ⟨d, hd, hl⟩ := List.mem_flatMap.1 hl
  obtain ⟨target, -, rfl⟩ := List.mem_map.1 hl
  exact ⟨items, present, hd⟩

theorem pointers_eq_links
    (normal : ∀ entry ∈ groups, ∀ d ∈ entry.2, Declaration.Normal d.name.toList) :
    (groups.flatMap fun (group, items) => group.pointers items) =
      (links groups).map Link.pointer := by
  unfold links
  rw [List.map_flatMap]
  refine List.flatMap_congr fun ⟨group, items⟩ present => ?_
  rw [List.map_flatMap]
  refine List.flatMap_congr fun d hd => ?_
  rw [List.map_map]
  refine List.map_congr_left fun target _ => ?_
  have value := (d.replaceStem group.pointerStrip target.stem).value_pointTo (normal _ present d hd)
  exact congrArg (Declaration.mk _) value

theorem Variant.normal_classified {v : Variant} {i : Nat} {claims : List (Claimant × Matcher)}
    {ds : List Declaration} (stems : ∀ group ∈ v.groups, Declaration.Stem group.scope.toList) :
    ∀ entry ∈ v.classified claims ds i, ∀ d ∈ entry.2, Declaration.Normal d.name.toList := by
  intro entry present d hd
  obtain ⟨⟨group, j⟩, place, rfl⟩ := List.mem_map.1 present
  obtain ⟨e, -, rfl⟩ := List.mem_map.1 hd
  exact ((stems group (List.fst_mem_of_mem_zipIdx place)).name_replaceStem e group.strip).1

theorem declared_of_uniform {first v : VariantBlock} {others : List VariantBlock}
    (uniform : checkUniform (first :: others) = .ok ()) (hv : v ∈ first :: others)
    {d : Declaration} (hd : d ∈ first.items) : ∃ e ∈ v.items, e.name = d.name := by
  have same := checkUniform_eq_ok_iff.1 uniform first (by simp) v hv d.name
  have declared : first.declares d.name = true := List.any_eq_true.2 ⟨d, hd, decide_eq_true rfl⟩
  rw [same] at declared
  simpa [VariantBlock.declares] using declared

/-- The pointers of a layout are those that are due for its first variant, and lead to what every
    variant declares. -/
theorem Layout.pointers_due {layout : Layout} {ds : List Declaration} {a : Assembly} {v : Variant}
    {vs : List Variant} (variants : layout.variants = v :: vs)
    (stems : ∀ group ∈ v.groups, Declaration.Stem group.scope.toList)
    (h : layout.assemble ds = .ok a) :
    a.variants.head? = some ⟨v.name, (v.classified layout.claims ds 0).flatMap Prod.snd⟩ ∧
      a.pointers = (links (v.classified layout.claims ds 0)).map Link.pointer ∧
      ∀ l ∈ links (v.classified layout.claims ds 0), ∀ block ∈ a.variants,
        ∃ d ∈ block.items, d.name = l.source.name := by
  obtain ⟨uniform, sections, unbound, -, rfl⟩ := assemble_eq_ok_iff.1 h
  have colors := (layout.colors_pool_eq ds).1
  rw [variants, List.zipIdx_cons, List.map_cons] at colors
  have blocks : ∃ others, layout.blocks ds =
      ⟨v.name, (v.classified layout.claims ds 0).flatMap Prod.snd⟩ :: others := by
    rw [Layout.blocks, colors, variants, List.zip_cons_cons, List.map_cons]
    exact ⟨_, rfl⟩
  obtain ⟨others, blocks⟩ := blocks
  dsimp only
  rw [blocks] at uniform ⊢
  refine ⟨rfl, ?_, ?_⟩
  · rw [Layout.pointers, colors]
    exact pointers_eq_links (v.normal_classified stems)
  · intro l hl block hb
    obtain ⟨items, present, source⟩ := l.mem_source hl
    exact declared_of_uniform uniform hb (List.mem_flatMap.2 ⟨_, present, source⟩)

def ThemeBlock.title (name : String) : String := "/*## " ++ name ++ " ##*/"

theorem ThemeBlock.toList_titled (s : Section) : (titled s).toList =
    '\n' :: ((line (title s.name)).toList ++ (lines s.items).toList) := by
  rw [titled, String.toList_append, String.toList_append, List.append_assoc]
  rfl

theorem toList_braced {opening closing : String} {front : List Char}
    (first : opening.toList = front ++ ['{', '\n']) (last : closing.toList = ['}'])
    (top middle bottom : String) : (opening ++ top ++ middle ++ bottom ++ closing).toList =
      front ++ '{' :: ('\n' :: (top.toList ++ middle.toList ++ bottom.toList) ++ ['}']) := by
  simp [first, last]

theorem ThemeBlock.toList_render (t : ThemeBlock) : t.render.toList = "@theme inline ".toList ++
    '{' :: ('\n' :: ((String.join (t.resets.map line)).toList ++ (lines t.items).toList ++
      (String.join (t.sections.map titled)).toList) ++ ['}']) :=
  toList_braced (by decide) (by decide) _ _ _

theorem Assembly.render_block (a : Assembly) : a.block.render = "@theme inline \x7b\n" ++
    String.join (a.resets.map fun n => n.reset ++ "\n") ++ ThemeBlock.lines a.pointers ++
      String.join (a.sections.map ThemeBlock.titled) ++ "\x7d" := by
  have resets : (a.resets.map Namespace.reset).map ThemeBlock.line =
      a.resets.map fun n => n.reset ++ "\n" := List.map_map ..
  rw [← resets]
  rfl

namespace Standard

theorem map_scope (theme : String) : (colorGroups theme).map ColorGroup.scope =
    ["--semantic-color-background", "--semantic-color-text", "--semantic-color-border",
      "--semantic-color"] := rfl

theorem scope_stem {theme : String} :
    ∀ group ∈ colorGroups theme, Declaration.Stem group.scope.toList := by
  have scopes : ∀ scope ∈ (colorGroups theme).map ColorGroup.scope,
      Declaration.Stem scope.toList := by
    rw [map_scope]
    decide
  exact fun group hg => scopes group.scope (List.mem_map_of_mem hg)

def lightColors (ds : List Declaration) : List (ColorGroup × List Declaration) :=
  Variant.classified layout.claims ds ⟨"light", colorGroups "light"⟩ 0

/-- The standard theme has one pointer for each colour of the light variant and each target of the
    group that claimed it. The pointer lies in the target and names the colour as the light variant
    does; both variants declare that name. -/
theorem pointers_declared {ds : List Declaration} {a : Assembly}
    (h : layout.assemble ds = .ok a) :
    a.variants.map VariantBlock.name = ["light", "dark"] ∧
      a.variants.head? = some ⟨"light", (lightColors ds).flatMap Prod.snd⟩ ∧
      a.pointers = (links (lightColors ds)).map
        (fun l => ⟨l.name, "var(" ++ l.source.name ++ ")"⟩) ∧
      (∀ l ∈ links (lightColors ds), l.target.stem.toList <+: l.name.toList ∧
        ∀ v ∈ a.variants, ∃ d ∈ v.items, d.name = l.source.name) ∧
      a.block.render = "@theme inline \x7b\n" ++
        String.join (a.resets.map fun n => n.reset ++ "\n") ++
        String.join ((links (lightColors ds)).map fun l =>
          l.name ++ ": var(" ++ l.source.name ++ ");\n") ++
        String.join (a.sections.map ThemeBlock.titled) ++ "\x7d" ∧
      a.variantSheet = "\n".intercalate (a.variants.map fun v =>
        inRoot (inBlock ("[data-theme='" ++ v.name ++ "']") (renderLines v.items))) := by
  have variants : layout.variants =
      [⟨"light", colorGroups "light"⟩, ⟨"dark", colorGroups "dark"⟩] := rfl
  obtain ⟨first, pointers, declared⟩ := Layout.pointers_due variants scope_stem h
  rw [← lightColors] at first pointers declared
  have names : a.variants.map VariantBlock.name = ["light", "dark"] := by
    obtain ⟨variants, -⟩ := Layout.assemble_shares h
    rw [variants]
    rfl
  refine ⟨names, first, pointers, ?_, ?_, rfl⟩
  · exact fun l hl => ⟨l.stem_prefix_name, declared l hl⟩
  · rw [a.render_block, pointers, Link.lines_pointer]

def palette : List Declaration :=
  [⟨"--semantic-color-light-text- -bold ", "black"⟩, ⟨"--semantic-color-light-icon-a", "gray"⟩,
   ⟨"--semantic-color-dark-border", "pink"⟩, ⟨"--semantic-color-dark-icon-a", "silver"⟩,
   ⟨"--semantic-color-light-border", "red"⟩, ⟨"--semantic-color-dark-text-bold", "white"⟩]

def painted : Assembly where
  resets := Namespace.all
  pointers :=
    [⟨"--text-color-bold", "var(--semantic-color-text-bold)"⟩,
     ⟨"--text-color-icon-a", "var(--semantic-color-text-icon-a)"⟩,
     ⟨"--border-color", "var(--semantic-color-border)"⟩,
     ⟨"--ring-color", "var(--semantic-color-border)"⟩]
  variants :=
    [⟨"light", [⟨"--semantic-color-text-bold", "black"⟩, ⟨"--semantic-color-text-icon-a", "gray"⟩,
       ⟨"--semantic-color-border", "red"⟩]⟩,
     ⟨"dark", [⟨"--semantic-color-text-icon-a", "silver"⟩, ⟨"--semantic-color-text-bold", "white"⟩,
       ⟨"--semantic-color-border", "pink"⟩]⟩]
  sections := sections.map fun plan => ⟨plan.name, []⟩
  unbound := []

theorem palette_declared : layout.assemble palette = .ok painted ∧
    painted.pointers = (links (lightColors palette)).map
      (fun l => ⟨l.name, "var(" ++ l.source.name ++ ")"⟩) ∧
    (links (lightColors palette)).length = 4 ∧
    ∀ l ∈ links (lightColors palette), ∀ v ∈ painted.variants,
      ∃ d ∈ v.items, d.name = l.source.name := by
  have h : layout.assemble palette = .ok painted := by decide +kernel
  obtain ⟨-, -, pointers, declared, -, -⟩ := pointers_declared h
  have length := congrArg List.length pointers
  rw [List.length_map] at length
  exact ⟨h, pointers, length.symm, fun l hl => (declared l hl).2⟩

end Standard

end DesignTokens
