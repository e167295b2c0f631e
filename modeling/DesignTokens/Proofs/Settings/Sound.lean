import DesignTokens.Proofs.Success
import DesignTokens.Proofs.Text.Ink
import DesignTokens.Settings.Load

namespace DesignTokens

namespace Text

variable {s : List Char}

theorem contains_iff_infix {needle : List Char} : contains needle s = true ↔ needle <:+: s := by
  induction s with
  | nil => simp [contains]
  | cons c s ih =>
    rw [contains, Bool.or_eq_true, ih, List.isPrefixOf_iff_prefix, List.infix_cons_iff]

theorem allBlank_of_startsInked {text : String} (h : StartsInked text.toList) :
    allBlank text = false := by
  obtain ⟨c, hc, ink⟩ := h
  rw [allBlank, List.all_eq_false]
  exact ⟨c, List.mem_of_head? hc, by simp [ink]⟩

theorem allBlank_stripped {text : String} (h : stripped text ≠ "") :
    allBlank (stripped text) = false := by
  apply allBlank_of_startsInked
  rw [stripped, String.toList_ofList]
  rcases trim_trimmed text.toList with empty | ⟨starts, -⟩
  · exact absurd (by rw [stripped, empty]) h
  · exact starts

end Text

namespace Settings

variable {key : Key} {value : String} {path : Path}

theorem checkedPath_eq_ok_iff {checked : Path} :
    checkedPath key path = .ok checked ↔ path.text ≠ "" ∧ path = checked := by
  unfold checkedPath
  split <;> simp_all

theorem inked_of_parsePath (h : parsePath key value = .ok path) :
    Text.allBlank path.text = false := by
  obtain ⟨some, rfl⟩ := checkedPath_eq_ok_iff.1 h
  exact Text.allBlank_stripped some

theorem pos_of_parseSeconds {n : Nat} (h : parseSeconds key value = .ok n) : 0 < n := by
  unfold parseSeconds at h
  split at h
  · cases h
  · cases h
  · next positive _ =>
    cases h
    exact Nat.pos_of_ne_zero fun zero => positive (by simp [zero])

theorem placeholder_of_check {template placeholder : String}
    (h : checkPlaceholder key template placeholder = .ok ()) :
    placeholder ≠ "" ∧ placeholder.toList <:+: template.toList := by
  unfold checkPlaceholder at h
  split at h
  · cases h
  · next fit =>
    rw [not_or] at fit
    exact ⟨fit.1, Text.contains_iff_infix.1 (by simpa using fit.2)⟩

theorem distinct_concat (names : List GeneratorName) (name : GeneratorName) :
    distinct (names ++ [name]) =
      if name ∈ distinct names then distinct names else distinct names ++ [name] := by
  simp only [distinct, List.foldl_append, List.foldl_cons, List.foldl_nil, List.contains_iff_mem]

theorem mem_distinct {names : List GeneratorName} {name : GeneratorName} :
    name ∈ distinct names ↔ name ∈ names := by
  induction names using List.reverseRecOn with
  | nil => rfl
  | append_singleton names last ih =>
    rw [distinct_concat, List.mem_append, List.mem_singleton]
    split
    · next known =>
      refine ⟨fun member => .inl (ih.1 member), ?_⟩
      rintro (member | rfl)
      · exact ih.2 member
      · exact known
    · rw [List.mem_append, List.mem_singleton, ih]

theorem nodup_distinct (names : List GeneratorName) : (distinct names).Nodup := by
  induction names using List.reverseRecOn with
  | nil => exact .nil
  | append_singleton names last ih =>
    rw [distinct_concat]
    split
    · exact ih
    · next fresh =>
      refine List.nodup_append.2 ⟨ih, by simp, ?_⟩
      rintro name member other here rfl
      exact fresh (List.mem_singleton.1 here ▸ member)

theorem generators_of_parse {names : List GeneratorName}
    (h : parseGenerators key value = .ok names) : names ≠ [] ∧ names.Nodup := by
  obtain ⟨parsed, -, h⟩ := bind_eq_ok_iff.1 h
  split at h
  · cases h
  · next some =>
    cases h
    refine ⟨?_, nodup_distinct parsed⟩
    obtain ⟨name, member⟩ := List.exists_mem_of_ne_nil parsed some
    exact List.ne_nil_of_mem (mem_distinct.2 member)

def Outputs.paths (o : Outputs) : List Path :=
  [o.variablesFile, o.cssFile, o.scssDirectory, o.tailwindDirectory]

def Overrides.paths (o : Overrides) : List Path :=
  [o.variablesFile, o.cssFile, o.scssDirectory, o.tailwindDirectory].flatMap Option.toList

theorem Overrides.forall_paths {o : Overrides} {P : Path → Prop} : (∀ path ∈ o.paths, P path) ↔
    (∀ path ∈ o.variablesFile, P path) ∧ (∀ path ∈ o.cssFile, P path) ∧
      (∀ path ∈ o.scssDirectory, P path) ∧ ∀ path ∈ o.tailwindDirectory, P path := by
  simp [paths, or_imp, forall_and]

structure Sound (s : Settings) : Prop where
  generators : s.generators ≠ []
  distinct : s.generators.Nodup
  inked : ∀ path ∈ s.outputs.paths, Text.allBlank path.text = false
  patient : 0 < s.source.seconds
  placeholder : s.source.placeholder ≠ ""
  template : s.source.placeholder.toList <:+: s.source.template.toList

variable {s s' : Settings} {o : Overrides}

theorem source_of_load {get : Key → Option String} {source : Source}
    (h : loadSource get = .ok source) : 0 < source.seconds ∧ source.placeholder ≠ "" ∧
      source.placeholder.toList <:+: source.template.toList := by
  simp only [loadSource, bind_eq_ok_iff] at h
  obtain ⟨⟨⟩, checked, h⟩ := h
  have fit := placeholder_of_check checked
  split at h
  · obtain ⟨seconds, read, h⟩ := bind_eq_ok_iff.1 h
    cases h
    exact ⟨pos_of_parseSeconds read, fit⟩
  · cases h
    exact ⟨Nat.succ_pos 29, fit⟩

theorem outputs_of_load {get : Key → Option String} {outputs : Outputs}
    (h : loadOutputs get = .ok outputs) :
    ∀ path ∈ outputs.paths, Text.allBlank path.text = false := by
  simp only [loadOutputs, bind_eq_ok_iff, pure_eq_ok_iff] at h
  obtain ⟨file, hf, css, hc, scss, hs, tailwind, ht, rfl⟩ := h
  simp only [Outputs.paths, List.forall_mem_cons]
  exact ⟨inked_of_parsePath hf, inked_of_parsePath hc, inked_of_parsePath hs,
    inked_of_parsePath ht, by simp⟩

theorem sound_of_load {lookup : String → Option String} (h : load lookup = .ok s) : s.Sound := by
  simp only [load, bind_eq_ok_iff] at h
  obtain ⟨source, hs, outputs, ho, h⟩ := h
  obtain ⟨patient, placeholder, template⟩ := source_of_load hs
  have inked := outputs_of_load ho
  split at h <;>
    · simp only [bind_eq_ok_iff, pure_eq_ok_iff] at h
      obtain ⟨default, -, names, hn, rfl⟩ := h
      obtain ⟨generators, distinct⟩ := generators_of_parse hn
      exact ⟨generators, distinct, inked, patient, placeholder, template⟩

def overridden (s : Settings) (o : Overrides) : Settings where
  source := s.source
  outputs :=
    ⟨o.variablesFile.getD s.outputs.variablesFile, o.cssFile.getD s.outputs.cssFile,
     o.scssDirectory.getD s.outputs.scssDirectory,
     o.tailwindDirectory.getD s.outputs.tailwindDirectory⟩
  generators := o.generators.getD s.generators
  scssDefault := o.scssDefault.getD s.scssDefault

theorem replaced_eq_ok_iff {old : Path} {new : Option Path} {path : Path} :
    replaced (checkedPath key) old new = .ok path ↔
      (∀ p ∈ new, p.text ≠ "") ∧ new.getD old = path := by
  cases new with
  | none => simp [replaced]
  | some new => simp [replaced, checkedPath_eq_ok_iff]

theorem replaced_generators_eq_ok_iff {old names : List GeneratorName}
    {new : Option (List GeneratorName)} :
    replaced checkedGenerators old new = .ok names ↔ new ≠ some [] ∧ new.getD old = names := by
  cases new with
  | none => simp [replaced]
  | some new =>
    rw [replaced, checkedGenerators]
    split <;> simp_all

/-- Overriding looks for empty paths and for an empty list of generators, and for nothing else. -/
theorem override_eq_ok_iff : s.override o = .ok s' ↔
    (∀ path ∈ o.paths, path.text ≠ "") ∧ o.generators ≠ some [] ∧ s.overridden o = s' := by
  simp only [Settings.override, Outputs.override, bind_eq_ok_iff, pure_eq_ok_iff,
    replaced_eq_ok_iff, replaced_generators_eq_ok_iff]
  constructor
  · rintro ⟨outputs, ⟨file, ⟨hf, rfl⟩, css, ⟨hc, rfl⟩, scss, ⟨hs, rfl⟩, tailwind, ⟨ht, rfl⟩, rfl⟩,
      names, ⟨hn, rfl⟩, rfl⟩
    exact ⟨Overrides.forall_paths.2 ⟨hf, hc, hs, ht⟩, hn, rfl⟩
  · rintro ⟨paths, hn, rfl⟩
    obtain ⟨hf, hc, hs, ht⟩ := Overrides.forall_paths.1 paths
    exact ⟨_, ⟨_, ⟨hf, rfl⟩, _, ⟨hc, rfl⟩, _, ⟨hs, rfl⟩, _, ⟨ht, rfl⟩, rfl⟩, _, ⟨hn, rfl⟩, rfl⟩

theorem Sound.overridden_distinct_iff (h : s.Sound) :
    (s.overridden o).generators.Nodup ↔ ∀ names ∈ o.generators, names.Nodup := by
  cases given : o.generators with
  | none => simpa [overridden, given] using h.distinct
  | some names => simp [overridden, given]

theorem Sound.overridden_inked_iff (h : s.Sound) :
    (∀ path ∈ (s.overridden o).outputs.paths, Text.allBlank path.text = false) ↔
      ∀ path ∈ o.paths, Text.allBlank path.text = false := by
  have one {old : Path} (inked : Text.allBlank old.text = false) (new : Option Path) :
      Text.allBlank (new.getD old).text = false ↔
        ∀ path ∈ new, Text.allBlank path.text = false := by
    cases new <;> simp [inked]
  have inked := h.inked
  simp only [Outputs.paths, List.forall_mem_cons] at inked
  obtain ⟨file, css, scss, tailwind, -⟩ := inked
  simp only [Overrides.forall_paths, overridden, Outputs.paths, List.forall_mem_cons, one file,
    one css, one scss, one tailwind]
  simp

end Settings

end DesignTokens
