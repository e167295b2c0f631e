import DesignTokens.CommandLine.Arguments
import DesignTokens.Proofs.Settings.Sound

namespace DesignTokens

namespace Flags

variable {f f' : Flags} {flag : Flag} {value : String}

def paths (f : Flags) : List Path := f.overrides.paths

def Fit (f : Flags) : Prop := ∀ path ∈ f.paths, path.text ≠ ""

theorem fit_iff : f.Fit ↔ (∀ path ∈ f.variablesFile, path.text ≠ "") ∧
    (∀ path ∈ f.cssFile, path.text ≠ "") ∧ (∀ path ∈ f.scssDirectory, path.text ≠ "") ∧
      ∀ path ∈ f.tailwindDirectory, path.text ≠ "" :=
  Settings.Overrides.forall_paths

theorem fit_none : none.Fit := by simp [fit_iff, none]

theorem fit_of_first {old new : Option Path} (h : first flag value (path? value) old = .ok new) :
    ∀ path ∈ new, path.text ≠ "" := by
  unfold first path? at h
  split at h
  · cases h
  · split at h
    · next path given =>
      cases h
      split at given
      · cases given
      · next some =>
        cases given
        rintro path ⟨⟩
        exact some
    · cases h

theorem Fit.set (h : f.Fit) (read : f.set flag value = .ok f') : f'.Fit := by
  obtain ⟨file, css, scss, tailwind⟩ := fit_iff.1 h
  rw [fit_iff]
  cases flag <;> simp only [Flags.set, bind_eq_ok_iff, pure_eq_ok_iff] at read
  case generators =>
    split at read
    · cases read
      exact ⟨file, css, scss, tailwind⟩
    · cases read
  all_goals obtain ⟨new, given, rfl⟩ := read
  case variablesFile => exact ⟨fit_of_first given, css, scss, tailwind⟩
  case cssFile => exact ⟨file, fit_of_first given, scss, tailwind⟩
  case scssDirectory => exact ⟨file, css, fit_of_first given, tailwind⟩
  case tailwindDirectory => exact ⟨file, css, scss, fit_of_first given⟩
  all_goals exact ⟨file, css, scss, tailwind⟩

theorem Fit.orElse {inner outer : Flags} (hi : inner.Fit) (ho : outer.Fit) :
    (inner.orElse outer).Fit := by
  have one {a b : Option Path} (ha : ∀ path ∈ a, path.text ≠ "") (hb : ∀ path ∈ b, path.text ≠ "") :
      ∀ path ∈ (a <|> b), path.text ≠ "" := by
    cases a with
    | none => exact hb
    | some path => exact ha
  obtain ⟨file, css, scss, tailwind⟩ := fit_iff.1 hi
  obtain ⟨file', css', scss', tailwind'⟩ := fit_iff.1 ho
  exact fit_iff.2 ⟨one file file', one css css', one scss scss', one tailwind tailwind'⟩

theorem overrides_generators (f : Flags) : f.overrides.generators ≠ some [] := by
  unfold overrides
  split <;> simp_all

end Flags

namespace Arguments

open Flags (Fit)

variable {outer : Bool} {flags flags' : Flags} {stop : Stop} {arguments : List String}
  {lookup : String → Option String} {command : Command} {o : Settings.Overrides}

theorem readFlags_keeps {P : Flags → Prop}
    (keep : ∀ {f f' : Flags} {flag : Flag} {value : String}, P f → f.set flag value = .ok f' → P f')
    (start : P flags) (read : readFlags outer flags arguments = .ok (flags', stop)) : P flags' := by
  fun_induction readFlags outer flags arguments generalizing flags' stop
  case case4 ih | case7 ih =>
    obtain ⟨f, set, read⟩ := bind_eq_ok_iff.1 read
    exact ih f (keep start set) read
  case case10 flags argument rest _ _ _ =>
    cases named : commandStop argument rest with
    | error cause =>
      rw [named] at read
      cases read
    | ok stop =>
      rw [named] at read
      cases read
      exact start
  all_goals cases read
  all_goals exact start

theorem run_of_parse (h : parse lookup arguments = .ok (.run command o)) :
    ∃ outer inner rest, readFlags true .none arguments = .ok (outer, .command command rest) ∧
      readFlags false .none rest = .ok (inner, .finished) ∧
        (inner.orElse outer).overrides = o := by
  obtain ⟨⟨outer, stop⟩, front, h⟩ := bind_eq_ok_iff.1 h
  cases stop with
  | command command rest =>
    obtain ⟨⟨inner, stop⟩, behind, h⟩ := bind_eq_ok_iff.1 h
    cases stop with
    | finished =>
      obtain ⟨-, -, h⟩ := bind_eq_ok_iff.1 h
      cases h
      exact ⟨outer, inner, rest, front, behind, rfl⟩
    | _ => cases h
  | _ => cases h

theorem fit_of_parse (h : parse lookup arguments = .ok (.run command o)) :
    (∀ path ∈ o.paths, path.text ≠ "") ∧ o.generators ≠ some [] := by
  obtain ⟨outer, inner, rest, front, behind, rfl⟩ := run_of_parse h
  have fitOuter := readFlags_keeps Fit.set Flags.fit_none front
  have fitInner := readFlags_keeps Fit.set Flags.fit_none behind
  exact ⟨fitInner.orElse fitOuter, Flags.overrides_generators _⟩

variable {s : Settings} {env : String → Option String}

/-- Settings of a run: the command line is never refused, and leaves timeout and template as the
environment was checked to have them. Of generators and paths it checks less than the environment,
so that there are doubled generators or blank paths exactly if it gives some. -/
theorem configured (loaded : Settings.load env = .ok s)
    (parsed : parse lookup arguments = .ok (.run command o)) :
    ∃ s', s.override o = .ok s' ∧ s'.generators ≠ [] ∧ 0 < s'.source.seconds ∧
      s'.source.placeholder ≠ "" ∧
      s'.source.placeholder.toList <:+: s'.source.template.toList ∧
      (s'.generators.Nodup ↔ ∀ names ∈ o.generators, names.Nodup) ∧
      ((∀ path ∈ s'.outputs.paths, Text.allBlank path.text = false) ↔
        ∀ path ∈ o.paths, Text.allBlank path.text = false) := by
  have sound := Settings.sound_of_load loaded
  obtain ⟨paths, generators⟩ := fit_of_parse parsed
  refine ⟨s.overridden o, Settings.override_eq_ok_iff.2 ⟨paths, generators, rfl⟩, ?_,
    sound.patient, sound.placeholder, sound.template, sound.overridden_distinct_iff,
    sound.overridden_inked_iff⟩
  cases given : o.generators with
  | none => simpa [Settings.overridden, given] using sound.generators
  | some names =>
    intro empty
    exact generators (by simpa [Settings.overridden, given] using empty)

def mirror : String → Option String := fun name =>
  [("FIGMA_VARIABLE_API_URL", "https://mirror.test/v2/<file>/variables"),
   ("FIGMA_FILE_ID_PLACEHOLDER", "<file>"), ("TOKENPRESS_GENERATORS", " CSS ,, scss,css"),
   ("CSS_OUTPUT_FILE", " out/flat.css "), ("SCSS_OUTPUT_DIR", "\t"),
   ("TOKENPRESS_HTTP_TIMEOUT_SECS", " +5")].lookup name

def mirrored : Settings where
  source := ⟨none, none, "https://mirror.test/v2/<file>/variables", "<file>", 5⟩
  outputs :=
    ⟨⟨"tokens/variables.json"⟩, ⟨"out/flat.css"⟩, ⟨"styles/scss"⟩, ⟨"styles/tailwind"⟩⟩
  generators := [.css, .scss]
  scssDefault := true

def themed : Settings.Overrides where
  variablesFile := none
  cssFile := none
  scssDirectory := none
  tailwindDirectory := some ⟨"themes"⟩
  generators := some [.scss, .css]
  scssDefault := some false

theorem mirrored_configured : Settings.load mirror = .ok mirrored ∧
    parse mirror ["--generators", "css", "--tailwind-dir=themes", "generate", "--generators",
      "scss", "--scss-default=false", "--generators=css"] = .ok (.run .generate themed) ∧
    ∃ s', mirrored.override themed = .ok s' ∧ s'.generators ≠ [] ∧ 0 < s'.source.seconds ∧
      s'.source.placeholder ≠ "" ∧
      s'.source.placeholder.toList <:+: s'.source.template.toList ∧
      (s'.generators.Nodup ↔ ∀ names ∈ themed.generators, names.Nodup) ∧
      ((∀ path ∈ s'.outputs.paths, Text.allBlank path.text = false) ↔
        ∀ path ∈ themed.paths, Text.allBlank path.text = false) := by
  have loaded : Settings.load mirror = .ok mirrored := by decide +kernel
  have parsed : parse mirror ["--generators", "css", "--tailwind-dir=themes", "generate",
      "--generators", "scss", "--scss-default=false", "--generators=css"] =
        .ok (.run .generate themed) := by decide +kernel
  exact ⟨loaded, parsed, configured loaded parsed⟩

/-- What the environment drops, the command line keeps: a second mention of a generator, and a path
of blanks. -/
theorem doubled_unsound : ∃ (s : Settings) (o : Settings.Overrides) (s' : Settings),
    Settings.load (fun _ => none) = .ok s ∧
    parse (fun _ => none) ["generate", "--generators", "css,css", "--css-file", " "] =
      .ok (.run .generate o) ∧
    s.override o = .ok s' ∧ s'.generators = [.css, .css] ∧ s'.outputs.cssFile = ⟨" "⟩ ∧
    (Settings.load fun name =>
        [("TOKENPRESS_GENERATORS", "css,css"), ("CSS_OUTPUT_FILE", " ")].lookup name) =
      .ok { s with generators := [.css] } := by
  refine ⟨⟨⟨none, none, "https://api.figma.com/v1/files/\x7b\x7bfileId\x7d\x7d/variables/local",
      "\x7b\x7bfileId\x7d\x7d", 30⟩, ⟨⟨"tokens/variables.json"⟩, ⟨"styles/variables.css"⟩,
      ⟨"styles/scss"⟩, ⟨"styles/tailwind"⟩⟩, [.scss, .css], true⟩,
    ⟨none, some ⟨" "⟩, none, none, some [.css, .css], none⟩, _, ?_, ?_, rfl, rfl, rfl, ?_⟩ <;>
  decide +kernel

end Arguments

end DesignTokens
