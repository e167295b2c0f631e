import DesignTokens.Proofs.Generate.Emission
import DesignTokens.Proofs.Theme.Keeping
import DesignTokens.Proofs.Theme.Page

namespace DesignTokens

open Sheet (Row Faithful Spelling Token)
open Text (Plain)

namespace Declaration

/-- The declaration is one that a generator of custom properties can write. -/
structure Written (d : Declaration) : Prop where
  name : Exported d.name.toList
  value : ∃ value : Concrete, value.Tame ∧ d.value = (value.literal? .css).getD ""

variable {d e : Declaration} {s : List Char} {stem : String}

theorem Written.legible (h : d.Written) : d.Legible where
  name := h.name.dashed
  value := by
    obtain ⟨value, tame, text⟩ := h.value
    rw [text]
    exact Literal.spelling_css value tame

namespace Legible

theorem rename (h : d.Legible) (letters : ∀ c ∈ s, c.isAlphanum = true ∨ c = '-') :
    (d.rename s).Legible where
  name := by
    have ink : ∀ c ∈ s, Text.isBlank c = false := by
      intro c hc
      rcases letters c hc with alphanum | rfl
      · exact Text.isBlank_of_isPlain (Text.isPlain_of_isAlphanum alphanum)
      · decide
    refine ⟨dropDashes s, ?_, fun c hc => letters c ((List.dropWhile_sublist _).subset hc),
      head?_dropDashes s⟩
    rw [Declaration.rename, String.toList_ofList, normalName_ink ink]
  value := h.value

theorem letters (h : d.Legible) : ∀ c ∈ d.name.toList, c.isAlphanum = true ∨ c = '-' := by
  obtain ⟨stem, name, dashed⟩ := h.name
  rw [name]
  exact dashed.letters

theorem removeStem (h : d.Legible) (m : Matcher) : (d.removeStem m).Legible := by
  rcases d.removeStem_cases m with same | other
  · rwa [same]
  · rw [other]
    exact h.rename fun c hc => h.letters c ((m.strip_suffix _).subset hc)

theorem addStem (h : d.Legible) (plain : PlainStem stem) : (d.addStem stem.toList).Legible := by
  rcases d.addStem_cases stem.toList with same | other | other
  · rwa [same]
  · rw [other]
    exact h.rename plain.letters
  · rw [other]
    have core : ∀ c ∈ dropDashes d.name.toList, c.isAlphanum = true ∨ c = '-' :=
      fun c hc => h.letters c ((List.dropWhile_sublist _).subset hc)
    apply h.rename
    exact List.forall_mem_append.2 ⟨plain.letters, List.forall_mem_cons.2 ⟨.inr rfl, core⟩⟩

theorem replaceStem (h : d.Legible) (m : Matcher) (plain : PlainStem stem) :
    (d.replaceStem m stem).Legible := (h.removeStem m).addStem plain

theorem setValue (h : d.Legible) (plain : Plain s) (ne : s ≠ []) : (d.setValue s).Legible where
  name := h.name
  value := by
    obtain ⟨tokens, spelled⟩ := Spelling.plain plain
    have value : (d.setValue s).value.toList = s := by
      rw [Declaration.setValue, String.toList_ofList]
      exact normalValue_eq_self (.inr ⟨plain.startsInked ne, plain.endsInked ne⟩) spelled.noEnd
    rw [value]
    exact ⟨tokens, spelled⟩

theorem apply (h : d.Legible) {m : Modifier} (unit : m.unit ≠ .percent) : (m.apply d).Legible := by
  unfold Modifier.apply
  split
  · exact h
  · have suffix : Plain m.unit.suffix.toList := by
      cases same : m.unit with
      | percent => exact absurd same unit
      | none | px | rem | em => decide
    apply h.setValue ((Number.plain_plain _).append suffix)
    simp [Number.plain_ne_nil]

theorem pointTo (h : d.Legible) (h' : e.Legible) : (d.pointTo e.name.toList).Legible where
  name := h.name
  value := by
    have value : (d.pointTo e.name.toList).value.toList =
        "var(".toList ++ e.name.toList ++ [')'] := by
      simp [Declaration.pointTo, h'.normalName_name]
    rw [value]
    have front : Plain "var(".toList := by decide
    exact Spelling.plain ((front.append h'.plain_name).append (by decide))

end Legible

end Declaration

/-- The properties that tokens become are such declarations. -/
theorem Emission.written (e : Emission) (tame : e.Tame) : e.declaration.Written :=
  ⟨e.place.property_exported e.token.name, e.value, tame, rfl⟩

def Namespace.resetting (n : Namespace) : Declaration := ⟨n.stem ++ "-*", "initial"⟩

theorem Namespace.render_resetting (n : Namespace) : n.resetting.render = n.reset := by
  cases n <;> decide

theorem Namespace.resetting_returns (n : Namespace) : n.resetting.Returns where
  tidy := by cases n <;> decide +kernel
  faithful := by cases n <;> decide +kernel
  text := by cases n <;> decide +kernel
  candidate := by cases n <;> decide +kernel
  parse := by cases n <;> decide +kernel

namespace Page

theorem titled {part : Section} (title : Prints [.comment (ThemeBlock.title part.name).toList] [])
    (h : ∀ d ∈ part.items, d.Returns) : Page (ThemeBlock.titled part).toList part.items := by
  have heading := of_row title
  rw [Row.tokens, Sheet.textOf_cons, Sheet.textOf_nil, List.append_nil, Token.text] at heading
  have start : Page ['\n'] [] := blank (by decide)
  rw [ThemeBlock.toList_titled]
  exact start.append (heading.line.append (lines h))

theorem theme {a : Assembly} (pointers : ∀ d ∈ a.pointers, d.Returns)
    (sections : ∀ part ∈ a.sections,
      Prints [.comment (ThemeBlock.title part.name).toList] [] ∧ ∀ d ∈ part.items, d.Returns) :
    Page a.block.render.toList (a.resets.map Namespace.resetting ++ a.pointers ++
      a.sections.flatMap Section.items) := by
  have heads : Declaration.Heads ("@theme inline".toList.map .char) :=
    ⟨by decide, by decide, fun _ => rfl⟩
  have resets : Page (String.join (a.block.resets.map ThemeBlock.line)).toList
      (a.resets.map Namespace.resetting) := by
    rw [Assembly.block, List.map_map, List.map_eq_flatMap (f := Namespace.resetting)]
    apply join
    intro n _
    exact line (n.render_resetting ▸ declaration n.resetting_returns)
  have below : Page (String.join (a.sections.map ThemeBlock.titled)).toList
      (a.sections.flatMap Section.items) :=
    join fun part hp => titled (sections part hp).1 (sections part hp).2
  have content := (resets.append (lines pointers)).append below
  have start : Page ['\n'] [] := blank (by decide)
  have block := (start.append content).block heads
  rw [Sheet.textOf_chars] at block
  rw [ThemeBlock.toList_render]
  exact block

end Page

namespace Standard

variable {ds : List Declaration} {a : Assembly}

theorem layout_keeps_legible : layout.Keeps Declaration.Legible :=
  layout_keeps (fun _ plain h => h.replaceStem _ plain) (fun unit h => h.apply unit)
    fun h h' => h.pointTo h'

def variantSelector (theme : String) : List Token :=
  "[data-theme=".toList.map .char ++ [.quoted ('\'' :: theme.toList ++ ['\'']), .char ']']

theorem heads_variantSelector : ∀ theme ∈ themes, Declaration.Heads (variantSelector theme) := by
  intro theme ht
  simp only [themes, List.mem_cons, List.not_mem_nil, or_false] at ht
  rcases ht with rfl | rfl
  · exact ⟨by decide, by decide, fun _ => rfl⟩
  · exact ⟨by decide, by decide, fun _ => rfl⟩

theorem textOf_variantSelector : ∀ theme ∈ themes,
    ("[data-theme='" ++ theme ++ "']").toList = Sheet.textOf (variantSelector theme) := by
  decide

theorem prints_title : ∀ name ∈ sections.map SectionPlan.name,
    Prints [.comment (ThemeBlock.title name).toList] [] := by
  have lines : ∀ name ∈ sections.map SectionPlan.name,
      (Row.comment (ThemeBlock.title name).toList).Tidy ∧
        Faithful Sheet.protectable [.comment (ThemeBlock.title name).toList] := by
    decide +kernel
  exact fun name planned => .comment (lines name planned).1 (lines name planned).2

/-- Each file of a theme declares what the layout put into it and nothing else, in order: the
    variants their colours, the report what is unbound, and the theme its resets, its pointers and
    its sections. -/
theorem assemble_readable (written : ∀ d ∈ ds, d.Written) (h : layout.assemble ds = .ok a) :
    Reads a.variantSheet (a.variants.flatMap VariantBlock.items) ∧
    (a.missing? = none ↔ a.unbound = []) ∧
    (∀ text, a.missing? = some text → Reads text a.unbound) ∧
    Reads a.block.render (Namespace.all.map Namespace.resetting ++ a.pointers ++
      a.sections.flatMap Section.items) := by
  obtain ⟨pointers, variants, sections, unbound, titles⟩ :=
    layout_keeps_legible.assemble (fun d hd => (written d hd).legible) h
  have resets : a.resets = Namespace.all := by
    obtain ⟨-, sections, left, -, rfl⟩ := Layout.assemble_eq_ok_iff.1 h
    rfl
  refine ⟨?_, ?_, ?_, ?_⟩
  · apply Page.read
    rw [Assembly.variantSheet, String.toList_intercalate, List.map_map]
    apply Page.intercalate (.blank (c := '\n') (by decide))
    intro v hv
    have named := name_mem_themes h v hv
    have items := Page.renderLines fun d hd => (variants v hv d hd).returns
    exact .inRoot (.inBlock (heads_variantSelector _ named) (textOf_variantSelector _ named) items)
  · rw [Assembly.missing?]
    split <;> simp_all
  · intro text missing
    rw [Assembly.missing?] at missing
    split at missing
    · cases missing
    · cases missing
      exact (Page.inRoot (.renderLines fun d hd => (unbound d hd).returns)).read
  · rw [← resets]
    apply Page.read
    apply Page.theme
    · exact fun d hd => (pointers d hd).returns
    · intro part hp
      have planned : part.name ∈ a.sections.map Section.name := List.mem_map_of_mem hp
      rw [titles] at planned
      exact ⟨prints_title _ planned, fun d hd => (sections part hp d hd).returns⟩

def drawn : List Declaration :=
  [⟨"--semantic-color-dark-text-a", "'a;\x7b\x7d /* --x'"⟩, ⟨"--border-width-thin", ""⟩,
   ⟨"--semantic-color-light-text-a", "true"⟩, ⟨"--shadow", "'--b'"⟩]

theorem drawn_readable : (∀ d ∈ drawn, d.Written) ∧ ∃ a text, layout.assemble drawn = .ok a ∧
    a.missing? = some text ∧
    Reads a.variantSheet
      [⟨"--semantic-color-text-a", "true"⟩, ⟨"--semantic-color-text-a", "'a;\x7b\x7d /* --x'"⟩] ∧
    Reads text [⟨"--shadow", "'--b'"⟩] ∧
    Reads a.block.render (Namespace.all.map Namespace.resetting ++
      [⟨"--text-color-a", "var(--semantic-color-text-a)"⟩] ++
      [⟨"--border-width-thin", ""⟩, ⟨"--ring-width-thin", ""⟩]) := by
  have values : ∀ d ∈ drawn, Exported d.name.toList ∧
      ∃ value ∈ [.text "a;\x7b\x7d /* --x", .boolean true, .text "--b", .unsupported .null],
        Concrete.Tame value ∧ d.value = (value.literal? .css).getD "" := by
    decide +kernel
  have written : ∀ d ∈ drawn, d.Written := by
    intro d hd
    obtain ⟨name, value, -, tame, text⟩ := values d hd
    exact ⟨name, value, tame, text⟩
  have parts : (layout.assemble drawn).map (fun a => (a.variants.flatMap VariantBlock.items,
      a.pointers, a.sections.flatMap Section.items, a.unbound)) =
      .ok ([⟨"--semantic-color-text-a", "true"⟩,
          ⟨"--semantic-color-text-a", "'a;\x7b\x7d /* --x'"⟩],
        [⟨"--text-color-a", "var(--semantic-color-text-a)"⟩],
        [⟨"--border-width-thin", ""⟩, ⟨"--ring-width-thin", ""⟩], [⟨"--shadow", "'--b'"⟩]) := by
    decide +kernel
  obtain ⟨a, h, found⟩ := Layout.exists_of_map_eq_ok parts
  simp only [Prod.mk.injEq] at found
  obtain ⟨colors, pointers, items, unbound⟩ := found
  obtain ⟨variants, reported, missing, theme⟩ := assemble_readable written h
  cases report : a.missing? with
  | none =>
    rw [reported.1 report] at unbound
    cases unbound
  | some text =>
    refine ⟨written, a, text, h, report, colors ▸ variants, unbound ▸ missing text report, ?_⟩
    rwa [pointers, items] at theme

end Standard

end DesignTokens
