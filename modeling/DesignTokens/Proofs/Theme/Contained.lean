import DesignTokens.Proofs.Store.Publishing
import DesignTokens.Proofs.Theme.Keeping
import DesignTokens.Theme.Output

namespace DesignTokens

open Sheet (Sealed)

namespace Sheet

variable {s : List Char}

theorem isInert_of_isAlphanum {c : Char} (h : c.isAlphanum = true) : isInert c = true := by
  have inert := (Text.isPlain_inert (Text.isPlain_of_isAlphanum h)).2
  have noSlash : c ≠ '/' := by
    rintro rfl
    cases h
  simp only [List.mem_cons, not_or] at inert
  simp [isInert, isQuote, inert, noSlash]

theorem inert_of_letters (h : ∀ c ∈ s, c.isAlphanum = true ∨ c = '-') : Inert s := by
  intro c hc
  rcases h c hc with alphanum | rfl
  · exact isInert_of_isAlphanum alphanum
  · decide

theorem Contained.of_quiet (h : Quiet s) : Contained s := by
  have quiet : ∀ c ∈ s, isQuiet c = true ∨ c = ' ' := fun c hc => .inl (h c hc)
  refine contained_iff.2 ⟨s.map .char, .of_no_star (whole_chars quiet) (no_star_chars quiet),
    textOf_chars s, ?_⟩
  intro t ht
  obtain ⟨c, hc, rfl⟩ := List.mem_map.1 ht
  have inert := (isQuiet_inert (h c hc)).2
  simp only [List.mem_cons, not_or] at inert
  simp [inert]

end Sheet

namespace Declaration

variable {d e : Declaration} {s : List Char}

/-- Name and value leave no string and no comment open, and have no braces outside of these. -/
structure Contained (d : Declaration) : Prop where
  dashes : ['-', '-'] <+: d.name.toList
  name : Sheet.Contained d.name.toList
  value : Sheet.Contained d.value.toList

instance (d : Declaration) : Decidable d.Contained :=
  decidable_of_iff (['-', '-'] <+: d.name.toList ∧ Sheet.Contained d.name.toList ∧
    Sheet.Contained d.value.toList) ⟨fun h => ⟨h.1, h.2.1, h.2.2⟩, fun h => ⟨h.1, h.2, h.3⟩⟩

theorem contained_dropDashes (h : Sheet.Contained s) : Sheet.Contained (dropDashes s) := by
  apply h.suffix
  refine ⟨s.takeWhile (· = '-'), List.takeWhile_append_dropWhile.symm, fun c hc => ?_⟩
  have dash : c = '-' := by simpa using List.mem_takeWhile_imp hc
  rw [dash]
  decide

theorem contained_normalName (h : Sheet.Contained s) : Sheet.Contained (normalName s) := by
  rw [normalName, Sheet.Contained.cons_iff (by decide), Sheet.Contained.cons_iff (by decide)]
  exact (contained_dropDashes h.trim).trim

theorem contained_normalValue (h : Sheet.Contained s) : Sheet.Contained (normalValue s) := by
  apply Sheet.Contained.trim
  unfold dropSemicolon
  split
  · next last =>
    obtain ⟨init, split⟩ := List.getLast?_eq_some_iff.1 last
    have trimmed := h.trim
    rw [split] at trimmed ⊢
    rw [List.dropLast_concat]
    exact (Sheet.Contained.concat_iff (by decide)).1 trimmed
  · exact h.trim

namespace Contained

theorem rename (h : d.Contained) (hs : Sheet.Contained s) : (d.rename s).Contained := by
  refine ⟨?_, ?_, h.value⟩
  · rw [Declaration.rename, String.toList_ofList]
    exact List.prefix_append ['-', '-'] _
  · rw [Declaration.rename, String.toList_ofList]
    exact contained_normalName hs

theorem removeStem (h : d.Contained) {m : Matcher} (strip : m.TakesInert) :
    (d.removeStem m).Contained := by
  rcases d.removeStem_cases m with same | other
  · rwa [same]
  · rw [other]
    exact h.rename (h.name.suffix (strip d.name.toList))

theorem addStem (h : d.Contained) {stem : String} (plain : PlainStem stem) :
    (d.addStem stem.toList).Contained := by
  have inert : Sheet.Inert stem.toList := Sheet.inert_of_letters plain.letters
  unfold Declaration.addStem
  split
  · exact h
  · split
    · exact h.rename (by simpa using (Sheet.Contained.append_inert inert).2 .nil)
    · apply h.rename
      rw [Sheet.Contained.inert_append inert, Sheet.Contained.cons_iff (by decide)]
      exact contained_dropDashes h.name

theorem replaceStem (h : d.Contained) {m : Matcher} {stem : String} (strip : m.TakesInert)
    (plain : PlainStem stem) : (d.replaceStem m stem).Contained :=
  (h.removeStem strip).addStem plain

theorem setValue (h : d.Contained) (hs : Sheet.Contained s) : (d.setValue s).Contained := by
  refine ⟨h.dashes, h.name, ?_⟩
  rw [Declaration.setValue, String.toList_ofList]
  exact contained_normalValue hs

theorem apply (h : d.Contained) (m : Modifier) : (m.apply d).Contained := by
  unfold Modifier.apply
  split
  · exact h
  · apply h.setValue
    apply Sheet.Contained.of_quiet
    apply Sheet.Quiet.append (.of_plain (Number.plain_plain _))
    cases m.unit <;> decide

theorem pointTo (h : d.Contained) (h' : e.Contained) : (d.pointTo e.name.toList).Contained := by
  refine ⟨h.dashes, h.name, ?_⟩
  have value : (d.pointTo e.name.toList).value.toList =
      "var(".toList ++ normalName e.name.toList ++ [')'] := by
    simp [Declaration.pointTo]
  rw [value, Sheet.Contained.concat_iff (by decide), Sheet.Contained.inert_append (by decide)]
  exact contained_normalName h'.name

theorem sealed_render (h : d.Contained) : Sealed d.render.toList := by
  obtain ⟨core, name⟩ := h.dashes
  have colon : Sealed [':'] := .of_inert (by decide)
  have semicolon : Sealed [';'] := .of_inert (by decide)
  have front : Sealed d.name.toList := .of_contained h.name (by rw [← name]; simp)
  have back : Sealed (' ' :: d.value.toList) := .cons (by decide) h.value
  have whole : d.render.toList = d.name.toList ++ ([':'] ++ (' ' :: d.value.toList ++ [';'])) := by
    simp [render]
  rw [whole]
  exact front.append (colon.append (back.append semicolon))

end Contained

end Declaration

section

variable {ds : List Declaration} {selector content : String}

theorem sealed_renderLines (h : ∀ d ∈ ds, d.Contained) : Sealed (renderLines ds).toList := by
  rw [renderLines, String.toList_intercalate]
  apply Sealed.intercalate (.of_inert (by decide))
  simp only [List.map_map, List.forall_mem_map]
  exact fun d hd => (h d hd).sealed_render

theorem sealed_inBlock (h : Sealed selector.toList) (h' : Sealed content.toList) :
    Sealed (inBlock selector content).toList := by
  have line : Sealed ['\n'] := .of_inert (by decide)
  have space : Sealed [' '] := .of_inert (by decide)
  have whole : (inBlock selector content).toList =
      selector.toList ++ ([' '] ++ '{' :: (['\n'] ++ content.toList ++ ['\n'] ++ ['}'])) := by
    simp [inBlock]
  rw [whole]
  exact h.append (space.append ((line.append h').append line).block)

theorem sealed_inRoot (h : Sealed content.toList) : Sealed (inRoot content).toList :=
  sealed_inBlock (.of_inert (by decide)) h

theorem sealed_join {texts : List String} (h : ∀ text ∈ texts, Sealed text.toList) :
    Sealed (String.join texts).toList := by
  rw [String.toList_join]
  apply Sealed.flatten
  simpa using h

theorem sealed_line {text : String} (h : Sealed text.toList) :
    Sealed (ThemeBlock.line text).toList := by
  rw [ThemeBlock.line, String.toList_append]
  exact h.append (.of_inert (by decide))

theorem sealed_lines (h : ∀ d ∈ ds, d.Contained) : Sealed (ThemeBlock.lines ds).toList := by
  apply sealed_join
  simp only [List.forall_mem_map]
  exact fun d hd => sealed_line (h d hd).sealed_render

theorem sealed_reset (n : Namespace) : Sealed n.reset.toList := by
  apply Sealed.of_contained
  · cases n <;> decide +kernel
  · cases n <;> decide

theorem sealed_titled {part : Section} (title : Sealed (ThemeBlock.title part.name).toList)
    (h : ∀ d ∈ part.items, d.Contained) : Sealed (ThemeBlock.titled part).toList := by
  have start : Sealed ['\n'] := .of_inert (by decide)
  rw [ThemeBlock.toList_titled]
  exact start.append ((sealed_line title).append (sealed_lines h))

theorem sealed_theme {t : ThemeBlock} (resets : ∀ line ∈ t.resets, Sealed line.toList)
    (items : ∀ d ∈ t.items, d.Contained) (sections : ∀ part ∈ t.sections,
      Sealed (ThemeBlock.title part.name).toList ∧ ∀ d ∈ part.items, d.Contained) :
    Sealed t.render.toList := by
  have opening : Sealed "@theme inline ".toList := .of_inert (by decide)
  have front : Sealed (String.join (t.resets.map ThemeBlock.line)).toList := by
    apply sealed_join
    simp only [List.forall_mem_map]
    exact fun line hl => sealed_line (resets line hl)
  have back : Sealed (String.join (t.sections.map ThemeBlock.titled)).toList := by
    apply sealed_join
    simp only [List.forall_mem_map]
    exact fun part hp => sealed_titled (sections part hp).1 (sections part hp).2
  have start : Sealed ['\n'] := .of_inert (by decide)
  rw [t.toList_render]
  exact opening.append (start.append ((front.append (sealed_lines items)).append back)).block

end

theorem Artifact.file?_of_format {artifact : Artifact} {out : String}
    (h : Sheet.format artifact.dialect artifact.contents = .ok out) :
    artifact.file? = some (artifact.path, out) := by
  rw [Artifact.file?, h]
  rfl

namespace Standard

variable {ds : List Declaration} {a : Assembly}

theorem layout_keeps_contained : layout.Keeps Declaration.Contained :=
  layout_keeps (fun strip plain h => h.replaceStem strip plain) (fun _ h => h.apply _)
    fun h h' => h.pointTo h'

theorem sealed_artifacts (contained : ∀ d ∈ ds, d.Contained) (h : layout.assemble ds = .ok a)
    (directory : Path) :
    ∀ artifact ∈ a.artifacts directory,
      artifact.dialect = .css ∧ Sealed artifact.contents.toList := by
  obtain ⟨pointers, variants, sections, unbound, titles⟩ :=
    layout_keeps_contained.assemble contained h
  have titled : ∀ name ∈ Standard.sections.map SectionPlan.name,
      Sheet.Contained (ThemeBlock.title name).toList := by
    decide +kernel
  have theme : Sealed a.block.render.toList := by
    apply sealed_theme
    · intro line hl
      obtain ⟨n, -, rfl⟩ := List.mem_map.1 hl
      exact sealed_reset n
    · exact pointers
    · intro part hp
      have planned : part.name ∈ a.sections.map Section.name := List.mem_map_of_mem hp
      rw [titles] at planned
      exact ⟨.of_contained (titled _ planned) (by simp [ThemeBlock.title]), sections part hp⟩
  have sheet : Sealed a.variantSheet.toList := by
    rw [Assembly.variantSheet, String.toList_intercalate]
    apply Sealed.intercalate (.of_inert (by decide))
    simp only [List.map_map, List.forall_mem_map]
    intro v hv
    apply sealed_inRoot
    apply sealed_inBlock
    · have heading : ∀ theme ∈ themes, Sheet.Contained ("[data-theme='" ++ theme ++ "']").toList := by
        decide +kernel
      exact .of_contained (heading _ (name_mem_themes h v hv)) (by simp)
    · exact sealed_renderLines (variants v hv)
  intro artifact ha
  simp only [Assembly.artifacts, List.mem_append, List.mem_cons, List.not_mem_nil, or_false,
    Option.mem_toList, Option.map_eq_some_iff] at ha
  rcases ha with (rfl | rfl) | ⟨text, missing, rfl⟩
  · exact ⟨rfl, theme⟩
  · exact ⟨rfl, sheet⟩
  · refine ⟨rfl, ?_⟩
    unfold Assembly.missing? at missing
    split at missing
    · cases missing
    · cases missing
      exact sealed_inRoot (sealed_renderLines unbound)

/-- If the values that come in are closed by themselves, every file of the theme can be laid out and
    is written, the report of unbound declarations among them. -/
theorem artifacts_written (contained : ∀ d ∈ ds, d.Contained) (h : layout.assemble ds = .ok a)
    (directory : Path) (store : Store) :
    (∀ artifact ∈ a.artifacts directory, ∃ out,
      Sheet.format artifact.dialect artifact.contents = .ok out) ∧
    ((publishAll Store.sink (a.artifacts directory)).run store).1 =
      .ok ((a.artifacts directory).map fun _ => .written) ∧
    (a.unbound ≠ [] → ∃ out, Sheet.format .css (inRoot (renderLines a.unbound)) = .ok out ∧
      ((publishAll Store.sink (a.artifacts directory)).run store).2.get?
        (directory.join ⟨"missing-variables.css"⟩) = some out) := by
  have laid : ∀ artifact ∈ a.artifacts directory, ∃ out,
      Sheet.format artifact.dialect artifact.contents = .ok out := by
    intro artifact ha
    obtain ⟨css, closed⟩ := sealed_artifacts contained h directory artifact ha
    rw [css]
    exact closed.format
  refine ⟨laid, ?_, ?_⟩
  · rw [Store.publishAll_sink]
    apply congrArg Except.ok
    apply List.map_congr_left
    intro artifact ha
    obtain ⟨out, ok⟩ := laid artifact ha
    rw [Artifact.outcome, Artifact.file?_of_format ok]
    rfl
  · -- The report is the last file, so no other is written over it.
    intro unbound
    have last : ∃ front, a.artifacts directory = front ++
        [⟨directory.join ⟨"missing-variables.css"⟩, .css, inRoot (renderLines a.unbound)⟩] := by
      rw [Assembly.artifacts, Assembly.missing?, if_neg unbound]
      exact ⟨_, rfl⟩
    obtain ⟨front, split⟩ := last
    obtain ⟨out, ok⟩ := laid _ (split ▸ List.mem_append_right front (List.mem_singleton_self _))
    refine ⟨out, ok, ?_⟩
    rw [Store.publishAll_sink, split, List.filterMap_append,
      List.filterMap_cons_some (Artifact.file?_of_format ok)]
    exact Store.get?_writeAll_last store (by simp)

def wrapped : List Declaration :=
  [⟨"--semantic-color-dark-text-a", "rgb(0 0 0) /* \x7d */"⟩, ⟨"--shadow", "'--b;'"⟩,
   ⟨"--semantic-color-light-text-a", "url(\"\x7b\")"⟩]

theorem wrapped_written : (∀ d ∈ wrapped, d.Contained) ∧ ∃ a, layout.assemble wrapped = .ok a ∧
    a.unbound = [⟨"--shadow", "'--b;'"⟩] ∧
    ((publishAll Store.sink (a.artifacts ⟨"tw"⟩)).run Store.empty).1 =
      .ok [.written, .written, .written] ∧
    ((publishAll Store.sink (a.artifacts ⟨"tw"⟩)).run Store.empty).2.get?
      ⟨"tw/missing-variables.css"⟩ = some ":root \x7b\n    --shadow: '--b;';\n\x7d\n" := by
  have contained : ∀ d ∈ wrapped, d.Contained := by decide +kernel
  have leftover : (layout.assemble wrapped).map Assembly.unbound = .ok [⟨"--shadow", "'--b;'"⟩] := by
    decide +kernel
  obtain ⟨a, h, unbound⟩ := Layout.exists_of_map_eq_ok leftover
  have reported : a.unbound ≠ [] := by
    rw [unbound]
    exact List.cons_ne_nil _ _
  obtain ⟨-, outcomes, report⟩ := artifacts_written contained h ⟨"tw"⟩ Store.empty
  obtain ⟨out, laid, read⟩ := report reported
  have text : Sheet.format .css (inRoot (renderLines [⟨"--shadow", "'--b;'"⟩])) =
      .ok ":root \x7b\n    --shadow: '--b;';\n\x7d\n" := by decide +kernel
  have path : (⟨"tw"⟩ : Path).join ⟨"missing-variables.css"⟩ = ⟨"tw/missing-variables.css"⟩ := by
    decide
  rw [unbound, text] at laid
  rw [path, ← Except.ok.inj laid] at read
  refine ⟨contained, a, h, unbound, ?_, read⟩
  rw [outcomes, Assembly.artifacts, Assembly.missing?, if_neg reported]
  rfl

/-- A declaration is also read where a string holds the dashes of a name. Then a quote mark is left
    alone in its value, and the report of unbound declarations is skipped. -/
theorem quotedDashes_skipped :
    let text := ":root \x7b\n    content: 'use --b: y';\n    --a: 1;\n\x7d\n"
    let ds : List Declaration := [⟨"--b", "y'"⟩, ⟨"--a", "1"⟩]
    (Sheet.format .css text).isOk = true ∧ Declaration.ofSheet text = .ok ds ∧
      (layout.assemble ds).map (fun a => (a.unbound, a.missing?)) =
        .ok (ds, some ":root \x7b\n--b: y';\n--a: 1;\n\x7d") ∧
      Sheet.format .css ":root \x7b\n--b: y';\n--a: 1;\n\x7d" =
        .error (.layout (.unterminatedString 14)) := by
  decide +kernel

end Standard

end DesignTokens
