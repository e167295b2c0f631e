import DesignTokens.Proofs.Generate.Handover
import DesignTokens.Proofs.Generate.Stylesheet
import DesignTokens.Proofs.Generate.Variables
import DesignTokens.Proofs.Store.Paths

namespace DesignTokens

def Generator.handedOut (g : TokenGraph) (generator : Generator) : List Artifact :=
  (generator.run g).1.artifacts

theorem Generator.handedOut_css {g : TokenGraph} {path : Path}
    (ended : ((ofKind (.css path)).run g).2 = none) :
    (ofKind (.css path)).handedOut g = [g.stylesheet path] :=
  run_css_stylesheet (Prod.ext rfl ended)

theorem Generator.handedOut_scss {g : TokenGraph} {directory : Path} {marked : Bool}
    (ended : ((ofKind (.scss directory marked)).run g).2 = none) :
    (ofKind (.scss directory marked)).handedOut g =
      g.places.filterMap (Place.artifact? g directory marked) := by
  rcases run_scss_cases g directory marked with
    ⟨p, e, before, place, after, -, stopped, -⟩ | ⟨p, walked, -, artifacts⟩
  · cases (congrArg Prod.snd stopped).symm.trans ended
  · rw [handedOut, walked, artifacts]

theorem generate_sink_files {g : TokenGraph} {generator : Generator} {store store' : Store}
    {report : Report} (done : (generate g generator Store.sink).run store = (.ok report, store')) :
    (generator.run g).2 = none ∧
      store' = store.writeAll ((generator.handedOut g).filterMap Artifact.file?) ∧
      report.written = ((generator.handedOut g).filterMap Artifact.file?).length ∧
      report.written + report.notWritten = (generator.handedOut g).length := by
  obtain ⟨p, outcomes, walked, published, rfl⟩ := generate_sink_eq_ok done
  rw [Store.publishAll_sink] at published
  cases published
  simp only [Generator.handedOut, walked, true_and]
  refine ⟨Store.count_written p.artifacts, ?_⟩
  rw [Store.count_written_add_skipped, List.length_map]

section

variable {σ : Type} {sink : Sink (StateM σ)} {s s' : σ} {g : TokenGraph} {generator : Generator}

theorem generateAll_failed {e : GenerationError}
    (failed : (generate g generator sink).run s = (.error e, s')) (rest : List Generator) :
    (generateAll g sink (generator :: rest)).run s = (.error e, s') := by
  rw [generateAll, StateT.run_bind, failed]
  rfl

theorem generateAll_done {report : Report}
    (done : (generate g generator sink).run s = (.ok report, s')) (rest : List Generator) :
    (generateAll g sink (generator :: rest)).run s =
      ((generateAll g sink rest).run s').map (·.map report.add) id := by
  rw [generateAll, StateT.run_bind, done]
  obtain ⟨result, after, ran⟩ : ∃ result after,
      (generateAll g sink rest).run s' = (result, after) := ⟨_, _, rfl⟩
  have next : (generateAll g sink rest) s' = (result, after) := ran
  cases result <;> simp [next, StateT.run, bind, StateT.bind] <;> rfl

theorem generateAll_eq_ok {rest : List Generator} {report : Report}
    (done : (generateAll g sink (generator :: rest)).run s = (.ok report, s')) :
    ∃ here middle total, (generate g generator sink).run s = (.ok here, middle) ∧
      (generateAll g sink rest).run middle = (.ok total, s') ∧ report = here.add total := by
  obtain ⟨result, middle, first⟩ : ∃ result middle,
      (generate g generator sink).run s = (result, middle) := ⟨_, _, rfl⟩
  cases result with
  | error e => cases (generateAll_failed first rest).symm.trans done
  | ok here =>
    rw [generateAll_done first] at done
    obtain ⟨others, after, later⟩ : ∃ others after,
        (generateAll g sink rest).run middle = (others, after) := ⟨_, _, rfl⟩
    rw [later] at done
    cases others with
    | error e => cases done
    | ok total =>
      cases done
      exact ⟨here, middle, total, first, later, rfl⟩

end

theorem generateAll_sink_files {g : TokenGraph} {generators : List Generator}
    {store store' : Store} {report : Report}
    (done : (generateAll g Store.sink generators).run store = (.ok report, store')) :
    let handed := generators.flatMap (Generator.handedOut g)
    (∀ generator ∈ generators, (generator.run g).2 = none) ∧
      store' = store.writeAll (handed.filterMap Artifact.file?) ∧
      report.written = (handed.filterMap Artifact.file?).length ∧
      report.written + report.notWritten = handed.length := by
  induction generators generalizing store report with
  | nil =>
    cases done
    exact ⟨by simp, rfl, rfl, rfl⟩
  | cons generator rest ih =>
    obtain ⟨here, middle, total, first, later, rfl⟩ := generateAll_eq_ok done
    obtain ⟨ended, rfl, written, all⟩ := generate_sink_files first
    obtain ⟨endedRest, rfl, writtenRest, allRest⟩ := ih later
    refine ⟨List.forall_mem_cons.2 ⟨ended, endedRest⟩, ?_, ?_, ?_⟩
    · rw [List.flatMap_cons, List.filterMap_append, Store.writeAll_append]
    · rw [List.flatMap_cons, List.filterMap_append, List.length_append, ← written, ← writtenRest]
      rfl
    · rw [List.flatMap_cons, List.length_append, ← all, ← allRest]
      exact Nat.add_add_add_comm _ _ _ _

namespace Place

variable {g : TokenGraph} {directory : Path} {marked : Bool} {place other : Place}

/-- The file of a mode as it is written, if the mode declares something that can be laid out. -/
def written? (g : TokenGraph) (directory : Path) (marked : Bool) (place : Place) :
    Option (Path × String) :=
  (place.artifact? g directory marked).bind Artifact.file?

theorem isFileName_file (place : Place) : Path.IsFileName place.file := by
  obtain ⟨stem, name, alphanum⟩ := place.file_alphanum
  have shape : place.file.toList = stem.toList ++ ".scss".toList := by
    rw [name, String.toList_append]
  constructor
  · rw [shape]
    intro slash
    rcases List.mem_append.1 slash with slash | slash
    · exact absurd (alphanum _ slash) (by decide)
    · exact absurd slash (by decide)
  · intro step
    have long : 5 ≤ place.file.toList.length := by
      rw [shape, List.length_append]
      exact Nat.le_add_left 5 _
    simp only [List.mem_cons, List.not_mem_nil, or_false] at step
    rcases step with step | step | step <;> simp [step] at long

theorem path_of_written? {file : Path × String} (h : place.written? g directory marked = some file) :
    file.1 = directory.join ⟨place.file⟩ := by
  obtain ⟨a, handed, laid⟩ := Option.bind_eq_some_iff.1 h
  obtain ⟨text, -, rfl⟩ := Option.map_eq_some_iff.1 laid
  rw [artifact?] at handed
  split at handed
  · cases handed
  · cases handed
    rfl

end Place

variable {g : TokenGraph} {directory : Path} {marked : Bool}

def TokenGraph.writers (g : TokenGraph) (directory : Path) (marked : Bool) : List Place :=
  g.places.filter fun place => (place.written? g directory marked).isSome

theorem TokenGraph.filterMap_writers :
    (g.writers directory marked).filterMap (Place.written? g directory marked) =
      g.places.filterMap (Place.written? g directory marked) := by
  rw [writers, List.filterMap_filter]
  congr 1
  funext place
  cases place.written? g directory marked <;> rfl

theorem TokenGraph.exists_written {place : Place} (h : place ∈ g.writers directory marked) :
    ∃ file, place.written? g directory marked = some file :=
  Option.isSome_iff_exists.1 (List.mem_filter.1 h).2

theorem TokenGraph.keys_writers :
    (g.places.filterMap (Place.written? g directory marked)).map (fun file => file.1.key) =
      ((g.writers directory marked).map Place.file).map fun name =>
        (directory.join ⟨name⟩).key := by
  unfold writers
  induction g.places with
  | nil => rfl
  | cons place places ih =>
    cases file : place.written? g directory marked with
    | none => simpa [file] using ih
    | some written => simpa [file, Place.path_of_written? file] using ih

theorem TokenGraph.card_keys_writers (g : TokenGraph) (directory : Path) (marked : Bool) :
    ((g.places.filterMap (Place.written? g directory marked)).map fun file =>
        file.1.key).toFinset.card =
      ((g.writers directory marked).map Place.file).toFinset.card := by
  have image (names : List String) (key : String → List (List Nat)) :
      (names.map key).toFinset = names.toFinset.image key := Multiset.toFinset_map key names
  rw [keys_writers, image, Finset.card_image_of_injOn]
  intro name hn other ho same
  obtain ⟨place, -, rfl⟩ := List.mem_map.1 (List.mem_toFinset.1 hn)
  obtain ⟨place', -, rfl⟩ := List.mem_map.1 (List.mem_toFinset.1 ho)
  exact (Path.key_join_inj place.isFileName_file place'.isFileName_file).1 same

theorem TokenGraph.get?_writers {before after : List Place} {place : Place}
    (split : g.writers directory marked = before ++ place :: after)
    (last : ∀ other ∈ after, place.file ≠ other.file) (store : Store) :
    ∃ file, place.written? g directory marked = some file ∧
      (store.writeAll (g.places.filterMap (Place.written? g directory marked))).get?
        (directory.join ⟨place.file⟩) = some file.2 := by
  obtain ⟨file, here⟩ := exists_written (show place ∈ g.writers directory marked by simp [split])
  refine ⟨file, here, ?_⟩
  rw [← filterMap_writers, split, List.filterMap_append, List.filterMap_cons_some here,
    ← Place.path_of_written? here]
  apply Store.get?_writeAll_last
  intro other ho same
  obtain ⟨place', member, there⟩ := List.mem_filterMap.1 ho
  rw [Place.path_of_written? here, Place.path_of_written? there] at same
  exact last place' member
    ((Path.key_join_inj place.isFileName_file place'.isFileName_file).1 same)

/-- A run into an empty store reports a file for each mode that has one to write, but the store
    comes to hold no more files than these have names. So it holds as many as reported if and only
    if the names are distinct, and of the modes with one name the last has its file there. -/
theorem generate_scss_files {report : Report} {store' : Store}
    (done : (generate g (.ofKind (.scss directory marked)) Store.sink).run .empty =
      (.ok report, store')) :
    let writers := g.writers directory marked
    report.written = writers.length ∧
      store'.files.length = (writers.map Place.file).toFinset.card ∧
      (store'.files.length = report.written ↔ (writers.map Place.file).Nodup) ∧
      ∀ before place after, writers = before ++ place :: after →
        (∀ other ∈ after, place.file ≠ other.file) →
        ∃ file, place.written? g directory marked = some file ∧
          store'.get? (directory.join ⟨place.file⟩) = some file.2 := by
  intro writers
  obtain ⟨ended, rfl, written, -⟩ := generate_sink_files done
  have handed : ((Generator.ofKind (.scss directory marked)).handedOut g).filterMap
      Artifact.file? = g.places.filterMap (Place.written? g directory marked) := by
    rw [Generator.handedOut_scss ended, List.filterMap_filterMap]
    rfl
  rw [handed] at written ⊢
  have reported : report.written = writers.length := by
    rw [written, ← List.length_map (fun file : Path × String => file.1.key),
      TokenGraph.keys_writers, List.length_map, List.length_map]
  have held := Store.length_writeAll_empty (g.places.filterMap (Place.written? g directory marked))
  rw [TokenGraph.card_keys_writers] at held
  refine ⟨reported, held, ?_, fun before place after split last =>
    TokenGraph.get?_writers split last .empty⟩
  rw [held, reported, ← List.length_map Place.file]
  exact Multiset.toFinset_card_eq_card_iff_nodup

def palettes (first second : String) : TokenGraph where
  collections := .ofList
    [("one", ⟨"one", first, [⟨"m", "Default"⟩], "m", false, ["a"], .empty⟩),
     ("two", ⟨"two", second, [⟨"n", "Default"⟩], "n", false, ["b"], .empty⟩)]
  tokens := .ofList
    [("a", ⟨"a", "ink", "one", .ofList [("m", some (.concrete (.boolean true)))], false, .empty⟩),
     ("b", ⟨"b", "rim", "two", .ofList [("n", some (.concrete (.boolean false)))], false, .empty⟩)]

theorem palettes_apart :
    ∃ store', (generate (palettes "Brand Colors" "Brand Lines") (.ofKind (.scss ⟨"scss"⟩ false))
        Store.sink).run .empty = (.ok ⟨⟨2, 0, 0⟩, 2, 0⟩, store') ∧
      store'.files.length = 2 := by
  have report : ((generate (palettes "Brand Colors" "Brand Lines")
      (.ofKind (.scss ⟨"scss"⟩ false)) Store.sink).run .empty).1 = .ok ⟨⟨2, 0, 0⟩, 2, 0⟩ := by
    decide +kernel
  obtain ⟨store', done⟩ : ∃ store', (generate (palettes "Brand Colors" "Brand Lines")
      (.ofKind (.scss ⟨"scss"⟩ false)) Store.sink).run .empty =
        (.ok ⟨⟨2, 0, 0⟩, 2, 0⟩, store') := ⟨_, Prod.ext report rfl⟩
  have names : (((palettes "Brand Colors" "Brand Lines").writers ⟨"scss"⟩ false).map
      Place.file).Nodup := by decide +kernel
  exact ⟨store', done, (generate_scss_files done).2.2.1.2 names⟩

/-- Names with the same words: both files are reported, and the second takes the place of the
    first. -/
theorem palettes_share :
    let ran := (generate (palettes "Brand Colors" "brand/colors") (.ofKind (.scss ⟨"scss"⟩ false))
      Store.sink).run .empty
    ran.1 = .ok ⟨⟨2, 0, 0⟩, 2, 0⟩ ∧
      ran.2.files = [(⟨"scss/brandColors.scss"⟩, "$rim: false;\n")] := by
  decide +kernel

end DesignTokens
