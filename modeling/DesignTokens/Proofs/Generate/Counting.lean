import DesignTokens.Proofs.Generate.Files
import Mathlib.Algebra.GroupWithZero.Nat

namespace DesignTokens

def Tally.total (t : Tally) : Nat := t.declarations + t.skipped + t.misses

namespace Visit

/-- The member has no record, or its alias leads to a record that is not there. -/
def misses (g : TokenGraph) (v : Visit) : Bool :=
  match g.token? v.id with
  | none => true
  | some token =>
    match g.resolve token v.place.mode.id with
    | .error (.dangling ..) => true
    | _ => false

end Visit

def Step.visit? : Step → Option Visit
  | .member place id => some ⟨place, id⟩
  | .close _ => none

theorem TokenGraph.filterMap_walk (g : TokenGraph) : g.walk.filterMap Step.visit? = g.visits := by
  have mode (place : Place) : (modeSteps place).filterMap Step.visit? = place.visits := by
    rw [modeSteps, List.filterMap_append, List.filterMap_map]
    simp [Place.visits, Step.visit?, Function.comp_def]
  have collection (c : Collection) : (collectionSteps c).filterMap Step.visit? =
      c.modes.flatMap fun mode => (Place.mk c mode).visits := by
    rw [collectionSteps, List.filterMap_append, List.filterMap_flatMap]
    simp [mode, Step.visit?]
  rw [walk, List.filterMap_append, List.filterMap_flatMap]
  simp [collection, visits, places, Step.visit?, List.flatMap_assoc, List.flatMap_map]

theorem TokenGraph.length_visits (g : TokenGraph) : g.visits.length =
    (g.collections.values.map fun c => c.modes.length * c.members.length).sum := by
  have mode (place : Place) : place.visits.length = place.collection.members.length :=
    List.length_map ..
  rw [visits, places]
  induction g.collections.values with
  | nil => rfl
  | cons c cs ih =>
    rw [List.flatMap_cons, List.flatMap_append, List.length_append, ih, List.map_cons,
      List.sum_cons, List.length_flatMap, List.map_map]
    simp [Function.comp_def, mode]

namespace Progress

variable {g : TokenGraph} {p q : Progress} {vs : List Visit}

structure Counts (g : TokenGraph) (p : Progress) (vs : List Visit) (q : Progress) : Prop where
  kind : q.generator.kind = p.generator.kind
  declared : q.tally.declarations =
    p.tally.declarations + (vs.filterMap (p.generator.kind.visited? g)).length
  missed : q.tally.misses = p.tally.misses + vs.countP (Visit.misses g)
  all : q.tally.total = p.tally.total + vs.length

theorem Counts.append {r : Progress} {ws : List Visit} (first : p.Counts g vs q)
    (later : q.Counts g ws r) : p.Counts g (vs ++ ws) r where
  kind := later.kind.trans first.kind
  declared := by
    rw [later.declared, first.declared, first.kind, List.filterMap_append, List.length_append]
    omega
  missed := by
    rw [later.missed, first.missed, List.countP_append]
    omega
  all := by
    rw [later.all, first.all, List.length_append]
    omega

theorem counts_miss {v : Visit} (misses : v.misses g = true)
    (silent : v.place.emission? g v.id = none) : p.Counts g [v] p.miss where
  kind := rfl
  declared := by simp [miss, Tally.add, Generator.Kind.visited?, silent]
  missed := by simp [miss, Tally.add, misses]
  all := by
    simp [miss, Tally.add, Tally.total]
    omega

theorem counts_skip {v : Visit} (misses : v.misses g = false)
    (silent : p.generator.kind.visited? g v = none) : p.Counts g [v] p.skip where
  kind := rfl
  declared := by simp [skip, Tally.add, silent]
  missed := by simp [skip, Tally.add, misses]
  all := by
    simp [skip, Tally.add, Tally.total]
    omega

theorem counts_declare {v : Visit} {line : String} (misses : v.misses g = false)
    (adds : p.generator.kind.visited? g v = some line) : p.Counts g [v] (p.declare line) where
  kind := rfl
  declared := by simp [declare, Tally.add, adds]
  missed := by simp [declare, Tally.add, misses]
  all := by
    simp [declare, Tally.add, Tally.total]
    omega

theorem counts_visit {v : Visit} (taken : p.step g v.step = .ok q) : p.Counts g [v] q := by
  cases found : g.token? v.id with
  | none =>
    simp only [step, Visit.step, found, Except.ok.injEq] at taken
    exact taken ▸ counts_miss (by simp [Visit.misses, found]) (by simp [Place.emission?, found])
  | some token =>
    simp only [step, Visit.step, found, visit] at taken
    cases resolved : g.resolve token v.place.mode.id with
    | error cause =>
      -- A cycle stops the run, so of the errors only a missing record is counted.
      cases cause with
      | cycle chain => simp [resolved, ResolveError.isMiss] at taken
      | dangling holder target record =>
        simp only [resolved, ResolveError.isMiss, if_true, Except.ok.injEq] at taken
        exact taken ▸ counts_miss (by simp [Visit.misses, found, resolved])
          (by simp [Place.emission?, found, resolved])
    | ok value? =>
      have hit : v.misses g = false := by simp [Visit.misses, found, resolved]
      cases value? with
      | none =>
        simp only [resolved, Except.ok.injEq] at taken
        exact taken ▸ counts_skip hit
          (by simp [Generator.Kind.visited?, Place.emission?, found, resolved])
      | some value =>
        simp only [resolved] at taken
        -- A value that the generator refuses would have stopped the run.
        rcases p.generator.kind.stops_or_declares p.generator.buffer found resolved with
          ⟨e, refused, -⟩ | ⟨declared, -⟩
        · simp [refused] at taken
        · cases line : p.generator.kind.visited? g v with
          | none =>
            simp only [declared, line, Except.ok.injEq] at taken
            exact taken ▸ counts_skip hit line
          | some text =>
            simp only [declared, line, Except.ok.injEq] at taken
            exact taken ▸ counts_declare hit line

theorem counts_step {s : Step} (taken : p.step g s = .ok q) : p.Counts g s.visit?.toList q := by
  cases s with
  | member place id => exact counts_visit (v := ⟨place, id⟩) taken
  | close boundary =>
    have kind := kind_step taken
    cases taken
    exact ⟨kind, rfl, rfl, rfl⟩

theorem counts_run {steps : List Step} (taken : p.run g steps = (q, none)) :
    p.Counts g (steps.filterMap Step.visit?) q := by
  induction steps generalizing p with
  | nil =>
    cases taken
    exact ⟨rfl, rfl, rfl, rfl⟩
  | cons s steps ih =>
    rw [run] at taken
    cases first : p.step g s with
    | error e => simp [first] at taken
    | ok r =>
      simp only [first] at taken
      have counted := (counts_step first).append (ih taken)
      cases visits : s.visit? with
      | none => simpa [visits] using counted
      | some v => simpa [visits] using counted

end Progress

namespace Generator.Kind

def batches (g : TokenGraph) : Kind → List (Path × List String)
  | .css path => [(path, g.visits.filterMap (visited? g (.css path)))]
  | .scss directory marked =>
    (g.places.map fun place => (directory.join ⟨place.file⟩,
      place.visits.filterMap (visited? g (.scss directory marked)))).filter fun batch =>
        batch.2 ≠ []

def sheet : Kind → Path × List String → Artifact
  | .css _, (path, lines) =>
    ⟨path, .css, ":root \x7b\n" ++ "\n".intercalate lines ++ "\n\x7d\n"⟩
  | .scss .., (path, lines) => ⟨path, .scss, "\n".intercalate lines ++ "\n"⟩

variable {g : TokenGraph} {kind : Kind}

theorem emissions_eq (g : TokenGraph) :
    g.emissions = g.visits.filterMap fun v => v.place.emission? g v.id := by
  simp only [TokenGraph.emissions, TokenGraph.visits, TokenGraph.places, List.filterMap_flatMap,
    List.flatMap_assoc, List.flatMap_map, Place.visits, List.filterMap_map]
  rfl

theorem lines_css (g : TokenGraph) (path : Path) :
    g.visits.filterMap (visited? g (.css path)) =
      g.emissions.map fun e => e.declaration.render := by
  rw [emissions_eq, List.map_filterMap]
  apply List.filterMap_congr
  intro v _
  rw [visited?]
  cases v.place.emission? g v.id <;> rfl

theorem handedOut_batches (ended : ((ofKind kind).run g).2 = none) :
    (ofKind kind).handedOut g = (kind.batches g).map kind.sheet := by
  cases kind with
  | css path =>
    rw [handedOut_css ended, batches, lines_css]
    rfl
  | scss directory marked =>
    rw [handedOut_scss ended, batches, List.filter_map, List.map_map, ← List.filterMap_eq_map,
      List.filterMap_filter]
    apply List.filterMap_congr
    intro place _
    rw [Place.artifact?, Place.assignments_eq directory]
    by_cases empty : place.visits.filterMap (visited? g (.scss directory marked)) = []
    · simp [empty]
    · simp [empty, sheet]

theorem length_batches (g : TokenGraph) (kind : Kind) :
    ((kind.batches g).map fun batch => batch.2.length).sum =
      (g.visits.filterMap (kind.visited? g)).length := by
  cases kind with
  | css path => simp [batches]
  | scss directory marked =>
    rw [TokenGraph.visits, batches, List.filterMap_flatMap, List.length_flatMap]
    induction g.places with
    | nil => rfl
    | cons place places ih =>
      rw [List.map_cons, List.map_cons, List.sum_cons, ← ih, List.filter_cons]
      by_cases empty : place.visits.filterMap (visited? g (.scss directory marked)) = []
      · simp [empty]
      · simp [empty]

end Generator.Kind

section

variable {σ : Type} {sink : Sink (StateM σ)} {s s' : σ} {g : TokenGraph}

theorem length_outcomes {artifacts : List Artifact} {outcomes : List Outcome}
    (done : (publishAll sink artifacts).run s = (.ok outcomes, s')) :
    outcomes.length = artifacts.length := by
  induction artifacts generalizing s outcomes with
  | nil =>
    cases done
    rfl
  | cons a artifacts ih =>
    obtain ⟨answer, middle, first⟩ : ∃ answer middle, (sink a).run s = (answer, middle) :=
      ⟨_, _, rfl⟩
    cases answer with
    | error cause => cases (publishAll_refused first artifacts).symm.trans done
    | ok outcome =>
      rw [publishAll_taken first] at done
      obtain ⟨published, after, rest⟩ : ∃ published after,
          (publishAll sink artifacts).run middle = (published, after) := ⟨_, _, rfl⟩
      rw [rest] at done
      cases published with
      | error e => cases done
      | ok others =>
        cases done
        rw [List.length_cons, List.length_cons, ih rest]

end

variable {g : TokenGraph} {answer : List Artifact → Artifact → Except FileError Outcome}

theorem generate_counted {kind : Generator.Kind} {before received : List Artifact} {report : Report}
    (done : (generate g (.ofKind kind) (recorder answer)).run before = (.ok report, received)) :
    (∃ p, (Generator.ofKind kind).run g = (p, none) ∧ p.tally = report.tally) ∧
      report.tally.total = g.visits.length ∧
      report.tally.misses = g.visits.countP (Visit.misses g) ∧
      received = before ++ (kind.batches g).map kind.sheet ∧
      report.tally.declarations = ((kind.batches g).map fun batch => batch.2.length).sum ∧
      report.written + report.notWritten = (kind.batches g).length := by
  obtain ⟨p, outcomes, walked, published, rfl⟩ := generate_sink_eq_ok done
  have counted := Progress.counts_run walked
  rw [TokenGraph.filterMap_walk] at counted
  have handed : p.artifacts = (kind.batches g).map kind.sheet := by
    rw [← Generator.Kind.handedOut_batches (congrArg Prod.snd walked), Generator.handedOut, walked]
  obtain ⟨q, ended, kept⟩ := received_of_ok (congrArg Prod.fst done)
  cases walked.symm.trans ended
  rw [done] at kept
  refine ⟨⟨p, walked, rfl⟩, ?_, ?_, handed ▸ kept, ?_, ?_⟩
  · simpa [Progress.start, Tally.total, Tally.zero] using counted.all
  · simpa [Progress.start, Tally.zero] using counted.missed
  · rw [Generator.Kind.length_batches]
    simpa [Progress.start, Tally.zero, Generator.ofKind] using counted.declared
  · rw [Store.count_written_add_skipped, length_outcomes published, handed, List.length_map]

theorem generateAll_counted {kinds : List Generator.Kind} {before received : List Artifact}
    {report : Report}
    (done : (generateAll g (recorder answer) (kinds.map Generator.ofKind)).run before =
      (.ok report, received)) :
    (∀ kind ∈ kinds, ∃ p, (Generator.ofKind kind).run g = (p, none) ∧
        p.tally.misses = g.visits.countP (Visit.misses g)) ∧
      report.tally.total = kinds.length * g.visits.length ∧
      report.tally.misses = kinds.length * g.visits.countP (Visit.misses g) ∧
      received = before ++ kinds.flatMap (fun kind => (kind.batches g).map kind.sheet) ∧
      report.tally.declarations =
        ((kinds.flatMap (Generator.Kind.batches g)).map fun batch => batch.2.length).sum ∧
      report.written + report.notWritten = (kinds.flatMap (Generator.Kind.batches g)).length := by
  induction kinds generalizing before report with
  | nil =>
    cases done
    simp [Report.zero, Tally.zero, Tally.total]
  | cons kind kinds ih =>
    obtain ⟨here, middle, rest, first, later, rfl⟩ := generateAll_eq_ok done
    obtain ⟨⟨p, walked, tally⟩, total, missed, rfl, declared, outcomes⟩ := generate_counted first
    obtain ⟨each, totals, misses, rfl, declarations, all⟩ := ih later
    refine ⟨List.forall_mem_cons.2 ⟨⟨p, walked, tally ▸ missed⟩, each⟩, ?_, ?_, ?_, ?_, ?_⟩
    · rw [List.length_cons, Nat.succ_mul, ← totals, ← total]
      simp only [Report.add, Tally.add, Tally.total]
      omega
    · rw [List.length_cons, Nat.succ_mul, ← misses, ← missed]
      exact Nat.add_comm ..
    · rw [List.flatMap_cons, List.append_assoc]
    · rw [List.flatMap_cons, List.map_append, List.sum_append, ← declared, ← declarations]
      rfl
    · rw [List.flatMap_cons, List.length_append, ← outcomes, ← all]
      exact Nat.add_add_add_comm ..

/-- A report that adds up: each generator counts each member in each mode of its collection once, all
    of them the same misses, and what is declared are the lines of the files that the sink receives,
    which are written or not. -/
theorem generateAll_balanced {kinds : List Generator.Kind} {received : List Artifact}
    {report : Report}
    (done : (generateAll g (recorder answer) (kinds.map Generator.ofKind)).run [] =
      (.ok report, received)) :
    let misses := g.visits.countP (Visit.misses g)
    let batches := kinds.flatMap (Generator.Kind.batches g)
    report.tally.declarations + report.tally.skipped + report.tally.misses =
        kinds.length *
          (g.collections.values.map fun c => c.modes.length * c.members.length).sum ∧
      (∀ kind ∈ kinds, ∃ p, (Generator.ofKind kind).run g = (p, none) ∧ p.tally.misses = misses) ∧
      report.tally.misses = kinds.length * misses ∧
      received = kinds.flatMap (fun kind => (kind.batches g).map kind.sheet) ∧
      report.tally.declarations = (batches.map fun batch => batch.2.length).sum ∧
      report.written + report.notWritten = received.length := by
  intro misses batches
  obtain ⟨each, total, missed, rfl, declared, outcomes⟩ := generateAll_counted done
  refine ⟨?_, each, missed, rfl, declared, ?_⟩
  · rw [← TokenGraph.length_visits]
    exact total
  · rw [outcomes, List.nil_append, List.length_flatMap, List.length_flatMap]
    simp

theorem flags_balanced :
    let kinds : List Generator.Kind := [.css ⟨"flags.css"⟩, .scss ⟨"out"⟩ false]
    let ran := (generateAll (flags (.aliasOf "half"))
      (recorder fun received _ => .ok (if received = [] then .written else .skipped))
      (kinds.map Generator.ofKind)).run []
    ran.1 = .ok ⟨⟨2, 6, 8⟩, 1, 1⟩ ∧ 2 + 6 + 8 = kinds.length * (2 * 4) ∧ ran.2.length = 2 ∧
      ran.2 = kinds.flatMap fun kind =>
        (kind.batches (flags (.aliasOf "half"))).map kind.sheet := by
  intro kinds ran
  have report : ran.1 = .ok ⟨⟨2, 6, 8⟩, 1, 1⟩ := by decide +kernel
  obtain ⟨total, -, -, received, -, written⟩ := generateAll_balanced (Prod.ext report rfl)
  exact ⟨report, total, written.symm, received⟩

end DesignTokens
