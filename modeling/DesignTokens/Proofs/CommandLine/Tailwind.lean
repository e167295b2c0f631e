import DesignTokens.Proofs.CommandLine.Rehearsing
import DesignTokens.Proofs.Theme.Contained

namespace DesignTokens

namespace Rehearsal

variable {here : Path} {r r' : Rehearsal} {a : Artifact}

theorem runTailwind_iff {settings : Settings} :
    (Command.runTailwind (session here) settings).run.run r = (.ok (), r') ↔
      ∃ text ds theme outcomes r₁,
        r.disk.readText (here.join settings.outputs.cssFile) = .ok text ∧
        Declaration.ofSheet text = .ok ds ∧ Standard.layout.assemble ds = .ok theme ∧
        (publishAll (session here).sink
          (theme.artifacts settings.outputs.tailwindDirectory)).run r = (.ok outcomes, r₁) ∧
        r' = { r₁ with
          out := r₁.out ++ Command.tailwindSummary settings.outputs.tailwindDirectory
            (outcomes.count .written) theme.unbound.length ++ "\n" } := by
  simp only [Command.runTailwind, readInput_run, Run.bind_run, Run.check_run, Run.step_run,
    print_run]
  constructor
  · rintro ⟨text, _, ⟨read, rfl⟩, ds, _, ⟨parsed, rfl⟩, theme, _, ⟨assembled, rfl⟩, outcomes, r₁,
      published, rfl⟩
    exact ⟨text, ds, theme, outcomes, r₁, read, parsed, assembled, published, rfl⟩
  · rintro ⟨text, ds, theme, outcomes, r₁, read, parsed, assembled, published, rfl⟩
    exact ⟨text, r, ⟨read, rfl⟩, ds, r, ⟨parsed, rfl⟩, theme, r, ⟨assembled, rfl⟩, outcomes, r₁,
      published, rfl⟩

def fileNames : List String := ["theme.css", "variables.css", "missing-variables.css"]

theorem isFileName {name : String} (h : name ∈ fileNames) : Path.IsFileName name := by
  simp only [fileNames, List.mem_cons, List.not_mem_nil, or_false] at h
  rcases h with rfl | rfl | rfl <;> exact ⟨by decide, by decide⟩

theorem name_of_artifact {theme : Assembly} {directory : Path}
    (h : a ∈ theme.artifacts directory) : ∃ name ∈ fileNames, a.path = directory.join ⟨name⟩ := by
  simp only [Assembly.artifacts, List.mem_append, List.mem_cons, List.not_mem_nil, or_false,
    Option.mem_toList, Option.map_eq_some_iff] at h
  rcases h with (rfl | rfl) | ⟨report, -, rfl⟩
  · exact ⟨"theme.css", by simp [fileNames], rfl⟩
  · exact ⟨"variables.css", by simp [fileNames], rfl⟩
  · exact ⟨"missing-variables.css", by simp [fileNames], rfl⟩

def fileIn (here directory : Path) (name : String) : Path := here.join (directory.join ⟨name⟩)

theorem place_fileIn_inj {directory : Path} {name other : String} (h : Path.IsFileName name)
    (h' : Path.IsFileName other) :
    (fileIn here directory name).place = (fileIn here directory other).place ↔ name = other := by
  obtain ⟨above, shape⟩ := Path.exists_pieces_join here directory
  have plain {name : String} (h : Path.IsFileName name) :
      ¬(name.toList = [] ∨ name.toList = ['.'] ∨ name.toList = ['.', '.']) := by
    simpa using h.noStep
  rw [Path.place, Path.place, fileIn, fileIn, shape name h, shape other h',
    Disk.lead_concat (plain h), Disk.lead_concat (plain h')]
  simp [String.toList_inj]

theorem join_ne {directory : Path} {name other : String} (h : name ∈ fileNames)
    (h' : other ∈ fileNames) (ne : name ≠ other) : directory.join ⟨name⟩ ≠ directory.join ⟨other⟩ :=
  fun same => ne ((Path.join_inj (isFileName h) (isFileName h')).1 same)

theorem read_published {theme : Assembly} {directory : Path} {outcomes : List Outcome}
    (h : (publishAll (session here).sink (theme.artifacts directory)).run r = (.ok outcomes, r'))
    (accepted : ∀ a ∈ theme.artifacts directory, a.text?.isSome) {name text : String}
    (hn : Path.IsFileName name) :
    r'.disk.read (fileIn here directory name) = .ok text ↔
      (((theme.artifacts directory).filter (·.path = directory.join ⟨name⟩)).filterMap
        Artifact.text?).getLast?.or (r.disk.file? (fileIn here directory name).place) =
          some text := by
  obtain ⟨above, shape⟩ := Path.exists_pieces_join here directory
  obtain ⟨a, member, opens⟩ := publishAll_opens h accepted (by simp [Assembly.artifacts])
  obtain ⟨known, hk, path⟩ := name_of_artifact member
  rw [path, Disk.opens_sibling (shape known (isFileName hk)) (shape name hn)] at opens
  have same : (theme.artifacts directory).filter
        (placeOf here · = (fileIn here directory name).place) =
      (theme.artifacts directory).filter (·.path = directory.join ⟨name⟩) := by
    apply List.filter_congr
    intro b hb
    obtain ⟨other, ho, path⟩ := name_of_artifact hb
    rw [placeOf, path, decide_eq_decide, Path.join_inj (isFileName ho) hn]
    exact place_fileIn_inj (isFileName ho) hn
  rw [Disk.read_eq_ok_iff, publishAll_run h, same]
  exact and_iff_right opens

section

variable {theme : Assembly} {directory : Path} {outcomes : List Outcome}
  (h : (publishAll (session here).sink (theme.artifacts directory)).run r = (.ok outcomes, r'))
  (accepted : ∀ a ∈ theme.artifacts directory, a.text?.isSome)
include h accepted

theorem read_artifact {name contents text : String}
    (member : ⟨directory.join ⟨name⟩, .css, contents⟩ ∈ theme.artifacts directory)
    (laid : Sheet.format .css contents = .ok text) :
    r'.disk.read (fileIn here directory name) = .ok text := by
  have first : directory.join ⟨"theme.css"⟩ ≠ directory.join ⟨"variables.css"⟩ :=
    join_ne (by decide) (by decide) (by decide)
  have second : directory.join ⟨"theme.css"⟩ ≠ directory.join ⟨"missing-variables.css"⟩ :=
    join_ne (by decide) (by decide) (by decide)
  have third : directory.join ⟨"variables.css"⟩ ≠ directory.join ⟨"missing-variables.css"⟩ :=
    join_ne (by decide) (by decide) (by decide)
  have alone : (theme.artifacts directory).filter (·.path = directory.join ⟨name⟩) =
      [⟨directory.join ⟨name⟩, .css, contents⟩] := by
    cases report : theme.missing? with
    | none =>
      simp only [Assembly.artifacts, report, Option.map_none, Option.toList_none, List.append_nil,
        List.mem_cons, List.not_mem_nil, or_false, Artifact.mk.injEq, true_and] at member ⊢
      obtain ⟨path, rfl⟩ | ⟨path, rfl⟩ := member <;> simp [path, first, first.symm]
    | some report =>
      simp only [Assembly.artifacts, report, Option.map_some, Option.toList_some,
        List.cons_append, List.nil_append, List.mem_cons, List.not_mem_nil, or_false,
        Artifact.mk.injEq, true_and] at member ⊢
      obtain ⟨path, rfl⟩ | ⟨path, rfl⟩ | ⟨path, rfl⟩ := member <;>
        simp [path, first, first.symm, second, second.symm, third, third.symm]
  obtain ⟨known, hk, path⟩ := name_of_artifact member
  change directory.join ⟨name⟩ = directory.join ⟨known⟩ at path
  have accepted' : (⟨directory.join ⟨known⟩, .css, contents⟩ : Artifact).text? = some text :=
    Artifact.text?_eq_some_iff.2 laid
  rw [path] at alone
  rw [fileIn, path]
  refine (read_published h accepted (isFileName hk)).2 ?_
  rw [alone]
  simp [accepted']

theorem read_report {text : String} (bound : theme.unbound = []) :
    r'.disk.read (fileIn here directory "missing-variables.css") = .ok text ↔
      r.disk.file? (fileIn here directory "missing-variables.css").place = some text := by
  have missing : "missing-variables.css" ∈ fileNames := by decide
  have none : (theme.artifacts directory).filter
      (·.path = directory.join ⟨"missing-variables.css"⟩) = [] := by
    have first : directory.join ⟨"theme.css"⟩ ≠ directory.join ⟨"missing-variables.css"⟩ :=
      join_ne (by decide) missing (by decide)
    have second : directory.join ⟨"variables.css"⟩ ≠ directory.join ⟨"missing-variables.css"⟩ :=
      join_ne (by decide) missing (by decide)
    simp [Assembly.artifacts, Assembly.missing?, bound, first, second]
  rw [read_published h accepted (isFileName missing), none, List.filterMap_nil, List.getLast?_nil,
    Option.none_or]

end

/-- A run lays every file of its theme out anew. Where nothing is unbound, it leaves the report as
it was. -/
theorem runTailwind_files {settings : Settings} {text : String} {ds : List Declaration}
    {theme : Assembly}
    (read : r.disk.readText (here.join settings.outputs.cssFile) = .ok text)
    (parsed : Declaration.ofSheet text = .ok ds)
    (assembled : Standard.layout.assemble ds = .ok theme)
    (accepted : ∀ a ∈ theme.artifacts settings.outputs.tailwindDirectory, a.text?.isSome)
    (ran : (Command.runTailwind (session here) settings).run.run r = (.ok (), r')) :
    let file := fileIn here settings.outputs.tailwindDirectory
    (∀ name contents, ⟨settings.outputs.tailwindDirectory.join ⟨name⟩, .css, contents⟩ ∈
        theme.artifacts settings.outputs.tailwindDirectory →
      ∃ t, Sheet.format .css contents = .ok t ∧ r'.disk.read (file name) = .ok t) ∧
    (theme.unbound = [] → ∀ t, r'.disk.read (file "missing-variables.css") = .ok t ↔
      r.disk.file? (file "missing-variables.css").place = some t) := by
  obtain ⟨text', ds', theme', outcomes, r₁, read', parsed', assembled', published, rfl⟩ :=
    runTailwind_iff.1 ran
  obtain rfl : text = text' := Except.ok.inj (read.symm.trans read')
  obtain rfl : ds = ds' := Except.ok.inj (parsed.symm.trans parsed')
  obtain rfl : theme = theme' := Except.ok.inj (assembled.symm.trans assembled')
  refine ⟨fun name contents member => ?_, fun bound t => read_report published accepted bound⟩
  obtain ⟨t, laid⟩ := Option.isSome_iff_exists.1 (accepted _ member)
  rw [Artifact.text?_eq_some_iff] at laid
  exact ⟨t, laid, read_artifact published accepted member laid⟩

/-- Two runs on the same stylesheet leave the same theme and the same variants, whatever was on the
disks, and the same report where something is unbound. Where nothing is, no report is written, and
one that was there stays. -/
theorem runTailwind_repeats {settings : Settings} {r₁ r₁' r₂ r₂' : Rehearsal}
    (input : r₁.disk.readText (here.join settings.outputs.cssFile) =
      r₂.disk.readText (here.join settings.outputs.cssFile))
    (ran₁ : (Command.runTailwind (session here) settings).run.run r₁ = (.ok (), r₁'))
    (ran₂ : (Command.runTailwind (session here) settings).run.run r₂ = (.ok (), r₂')) :
    let file := fileIn here settings.outputs.tailwindDirectory
    let report := file "missing-variables.css"
    ∃ text ds theme,
      r₁.disk.readText (here.join settings.outputs.cssFile) = .ok text ∧
      Declaration.ofSheet text = .ok ds ∧ Standard.layout.assemble ds = .ok theme ∧
      ((∀ a ∈ theme.artifacts settings.outputs.tailwindDirectory, a.text?.isSome) →
        (∃ t, Sheet.format .css theme.block.render = .ok t ∧
          r₁'.disk.read (file "theme.css") = .ok t ∧ r₂'.disk.read (file "theme.css") = .ok t) ∧
        (∃ t, Sheet.format .css theme.variantSheet = .ok t ∧
          r₁'.disk.read (file "variables.css") = .ok t ∧
          r₂'.disk.read (file "variables.css") = .ok t) ∧
        (theme.unbound ≠ [] → ∃ t,
          Sheet.format .css (inRoot (renderLines theme.unbound)) = .ok t ∧
          r₁'.disk.read report = .ok t ∧ r₂'.disk.read report = .ok t) ∧
        (theme.unbound = [] → ∀ t,
          (r₁'.disk.read report = .ok t ↔ r₁.disk.file? report.place = some t) ∧
          (r₂'.disk.read report = .ok t ↔ r₂.disk.file? report.place = some t))) := by
  intro file report
  obtain ⟨text, ds, theme, -, -, read, parsed, assembled, -, -⟩ := runTailwind_iff.1 ran₁
  refine ⟨text, ds, theme, read, parsed, assembled, fun accepted => ?_⟩
  obtain ⟨written₁, kept₁⟩ := runTailwind_files read parsed assembled accepted ran₁
  obtain ⟨written₂, kept₂⟩ :=
    runTailwind_files (input.symm.trans read) parsed assembled accepted ran₂
  have both (name contents : String)
      (member : ⟨settings.outputs.tailwindDirectory.join ⟨name⟩, .css, contents⟩ ∈
        theme.artifacts settings.outputs.tailwindDirectory) :
      ∃ t, Sheet.format .css contents = .ok t ∧ r₁'.disk.read (file name) = .ok t ∧
        r₂'.disk.read (file name) = .ok t := by
    obtain ⟨t, laid, read₁⟩ := written₁ name contents member
    obtain ⟨t', laid', read₂⟩ := written₂ name contents member
    obtain rfl : t = t' := Except.ok.inj (laid.symm.trans laid')
    exact ⟨t, laid, read₁, read₂⟩
  refine ⟨both "theme.css" _ ?_, both "variables.css" _ ?_,
    fun unbound => both "missing-variables.css" _ ?_, fun bound t => ⟨kept₁ bound t, kept₂ bound t⟩⟩
  · simp [Assembly.artifacts]
  · simp [Assembly.artifacts]
  · simp [Assembly.artifacts, Assembly.missing?, unbound]

def prepared (css : String) (files : List (String × String)) : Rehearsal :=
  .start
    ⟨[(["styles".toList], .directory), (["styles".toList, "tailwind".toList], .directory),
        (["styles".toList, "variables.css".toList], .file css)] ++
      files.map fun (name, text) =>
        (["styles".toList, "tailwind".toList, name.toList], .file text)⟩
    none

def usual : Settings where
  source := ⟨none, none, "https://tokens.test/<file>", "<file>", 30⟩
  outputs :=
    ⟨⟨"tokens/variables.json"⟩, ⟨"styles/variables.css"⟩, ⟨"styles/scss"⟩, ⟨"styles/tailwind"⟩⟩
  generators := [.css]
  scssDefault := true

def earlier : List (String × String) :=
  [("theme.css", "/* old */"), ("missing-variables.css", ":root \x7b --old: 1; \x7d")]

theorem runTailwind_succeeds {settings : Settings} {text : String} {ds : List Declaration}
    {theme : Assembly}
    (read : r.disk.readText (here.join settings.outputs.cssFile) = .ok text)
    (parsed : Declaration.ofSheet text = .ok ds)
    (assembled : Standard.layout.assemble ds = .ok theme)
    (ready : ∀ name ∈ fileNames,
      r.disk.Accepts (fileIn here settings.outputs.tailwindDirectory name)) :
    ∃ r', (Command.runTailwind (session here) settings).run.run r = (.ok (), r') := by
  have accepts : ∀ a ∈ theme.artifacts settings.outputs.tailwindDirectory,
      r.disk.Accepts (here.join a.path) := by
    intro a ha
    obtain ⟨name, known, path⟩ := name_of_artifact ha
    rw [path]
    exact ready name known
  obtain ⟨outcomes, r₁, published⟩ := publishAll_succeeds accepts
  exact ⟨_, runTailwind_iff.2
    ⟨text, ds, theme, outcomes, r₁, read, parsed, assembled, published, rfl⟩⟩

theorem readText_prepared (css : String) (files : List (String × String)) :
    (prepared css files).disk.readText (Path.join ⟨"/"⟩ usual.outputs.cssFile) = .ok css := by
  rfl

theorem accepted_of_contained {ds : List Declaration} {theme : Assembly} {directory : Path}
    (contained : ∀ d ∈ ds, d.Contained) (assembled : Standard.layout.assemble ds = .ok theme) :
    ∀ a ∈ theme.artifacts directory, a.text?.isSome := by
  intro a ha
  obtain ⟨css, closed⟩ := Standard.sealed_artifacts contained assembled directory a ha
  obtain ⟨text, laid⟩ := closed.format
  rw [← css, ← Artifact.text?_eq_some_iff] at laid
  simp [laid]

theorem ready_prepared : ∀ css ∈ [":root \x7b --a: 1; \x7d", ":root \x7b \x7d"],
    ∀ files ∈ [[], earlier], ∀ name ∈ fileNames,
      (prepared css files).disk.Accepts (fileIn ⟨"/"⟩ usual.outputs.tailwindDirectory name) := by
  decide +kernel

theorem reported_repeats :
    let r₁ := prepared ":root \x7b --a: 1; \x7d" []
    let r₂ := prepared ":root \x7b --a: 1; \x7d" earlier
    let css := Path.join ⟨"/"⟩ usual.outputs.cssFile
    ∃ r₁' r₂', r₁.disk.readText css = r₂.disk.readText css ∧
      (Command.runTailwind (session ⟨"/"⟩) usual).run.run r₁ = (.ok (), r₁') ∧
      (Command.runTailwind (session ⟨"/"⟩) usual).run.run r₂ = (.ok (), r₂') ∧
      ∃ theme variants, ∀ disk ∈ [r₁'.disk, r₂'.disk],
        disk.read (fileIn ⟨"/"⟩ ⟨"styles/tailwind"⟩ "theme.css") = .ok theme ∧
        disk.read (fileIn ⟨"/"⟩ ⟨"styles/tailwind"⟩ "variables.css") = .ok variants ∧
        disk.read (fileIn ⟨"/"⟩ ⟨"styles/tailwind"⟩ "missing-variables.css") =
          .ok ":root \x7b\n    --a: 1;\n\x7d\n" := by
  intro r₁ r₂ css
  have read₁ : r₁.disk.readText css = .ok ":root \x7b --a: 1; \x7d" := readText_prepared _ _
  have read₂ : r₂.disk.readText css = .ok ":root \x7b --a: 1; \x7d" := readText_prepared _ _
  have parsed : Declaration.ofSheet ":root \x7b --a: 1; \x7d" = .ok [⟨"--a", "1"⟩] := by
    decide +kernel
  have leftover : (Standard.layout.assemble [⟨"--a", "1"⟩]).map Assembly.unbound =
      .ok [⟨"--a", "1"⟩] := by
    decide +kernel
  obtain ⟨theme, assembled, unbound⟩ := Layout.exists_of_map_eq_ok leftover
  obtain ⟨r₁', ran₁⟩ :=
    runTailwind_succeeds read₁ parsed assembled (ready_prepared _ (by simp) _ (by simp))
  obtain ⟨r₂', ran₂⟩ :=
    runTailwind_succeeds read₂ parsed assembled (ready_prepared _ (by simp) _ (by simp))
  refine ⟨r₁', r₂', read₁.trans read₂.symm, ran₁, ran₂, ?_⟩
  obtain ⟨text, ds, theme', read, parsed', assembled', files⟩ :=
    runTailwind_repeats (read₁.trans read₂.symm) ran₁ ran₂
  obtain rfl := Except.ok.inj (read₁.symm.trans read)
  obtain rfl := Except.ok.inj (parsed.symm.trans parsed')
  obtain rfl := Except.ok.inj (assembled.symm.trans assembled')
  obtain ⟨⟨t, -, theme₁, theme₂⟩, ⟨v, -, variants₁, variants₂⟩, report, -⟩ :=
    files (accepted_of_contained (by decide +kernel) assembled)
  obtain ⟨m, laid, report₁, report₂⟩ := report (by simp [unbound])
  have text : Sheet.format .css (inRoot (renderLines [⟨"--a", "1"⟩])) =
      .ok ":root \x7b\n    --a: 1;\n\x7d\n" := by
    decide +kernel
  rw [unbound, text] at laid
  obtain rfl := Except.ok.inj laid
  refine ⟨t, v, List.forall_mem_cons.2 ⟨⟨theme₁, variants₁, report₁⟩, ?_⟩⟩
  exact List.forall_mem_singleton.2 ⟨theme₂, variants₂, report₂⟩

/-- Where nothing is unbound, one run ends without a report, and another with that of an earlier
run. -/
theorem leftover_report :
    let r₁ := prepared ":root \x7b \x7d" []
    let r₂ := prepared ":root \x7b \x7d" earlier
    let css := Path.join ⟨"/"⟩ usual.outputs.cssFile
    let report := fileIn ⟨"/"⟩ usual.outputs.tailwindDirectory "missing-variables.css"
    ∃ theme r₁' r₂',
      r₁.disk.readText css = .ok ":root \x7b \x7d" ∧ r₂.disk.readText css = .ok ":root \x7b \x7d" ∧
      Declaration.ofSheet ":root \x7b \x7d" = .ok [] ∧ Standard.layout.assemble [] = .ok theme ∧
      theme.unbound = [] ∧
      (∀ a ∈ theme.artifacts usual.outputs.tailwindDirectory, a.text?.isSome) ∧
      (Command.runTailwind (session ⟨"/"⟩) usual).run.run r₁ = (.ok (), r₁') ∧
      (Command.runTailwind (session ⟨"/"⟩) usual).run.run r₂ = (.ok (), r₂') ∧
      (∀ text, r₁'.disk.read report ≠ .ok text) ∧
      r₂'.disk.read report = .ok ":root \x7b --old: 1; \x7d" := by
  intro r₁ r₂ css report
  have read₁ : r₁.disk.readText css = .ok ":root \x7b \x7d" := readText_prepared _ _
  have read₂ : r₂.disk.readText css = .ok ":root \x7b \x7d" := readText_prepared _ _
  have parsed : Declaration.ofSheet ":root \x7b \x7d" = .ok [] := by decide +kernel
  have nothing : (Standard.layout.assemble []).map Assembly.unbound = .ok [] := by decide +kernel
  obtain ⟨theme, assembled, bound⟩ := Layout.exists_of_map_eq_ok nothing
  have accepted : ∀ a ∈ theme.artifacts usual.outputs.tailwindDirectory, a.text?.isSome :=
    accepted_of_contained (by simp) assembled
  obtain ⟨r₁', ran₁⟩ :=
    runTailwind_succeeds read₁ parsed assembled (ready_prepared _ (by simp) _ (by simp))
  obtain ⟨r₂', ran₂⟩ :=
    runTailwind_succeeds read₂ parsed assembled (ready_prepared _ (by simp) _ (by simp))
  obtain ⟨-, kept₁⟩ := runTailwind_files read₁ parsed assembled accepted ran₁
  obtain ⟨-, kept₂⟩ := runTailwind_files read₂ parsed assembled accepted ran₂
  have before₁ : r₁.disk.file? report.place = none := by decide +kernel
  have before₂ : r₂.disk.file? report.place = some ":root \x7b --old: 1; \x7d" := by decide +kernel
  refine ⟨theme, r₁', r₂', read₁, read₂, parsed, assembled, bound, accepted, ran₁, ran₂,
    fun text read => ?_, (kept₂ bound _).2 before₂⟩
  rw [(kept₁ bound text).1 read] at before₁
  cases before₁

end Rehearsal

end DesignTokens
