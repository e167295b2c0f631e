import DesignTokens.CommandLine.Rehearsal
import DesignTokens.Proofs.Store.Disk
import DesignTokens.Proofs.Store.Isolation

namespace DesignTokens

namespace Run

variable {σ ε α β : Type} {s s' s'' : σ} {a : α} {b : β}

theorem bind_run {x : Run (StateM σ) α} {f : α → Run (StateM σ) β} :
    (x >>= f).run.run s = (.ok b, s'') ↔
      ∃ a s', x.run.run s = (.ok a, s') ∧ (f a).run.run s' = (.ok b, s'') := by
  rw [ExceptT.run_bind, StateT.run_bind]
  obtain ⟨result, s', ran⟩ : ∃ result s', x.run.run s = (result, s') := ⟨_, _, rfl⟩
  rw [ran]
  cases result with
  | error e =>
    constructor
    · intro h
      cases h
    · rintro ⟨a, s₁, other, -⟩
      cases other
  | ok a =>
    constructor
    · exact fun h => ⟨a, s', rfl, h⟩
    · rintro ⟨a', s₁, same, h⟩
      cases same
      exact h

theorem step_run {wrap : ε → CommandError} {x : StateM σ (Except ε α)} :
    (step wrap x).run.run s = (.ok a, s') ↔ x.run s = (.ok a, s') := by
  obtain ⟨result, s', ran⟩ : ∃ result s', x.run s = (result, s') := ⟨_, _, rfl⟩
  have outcome : (step wrap x).run.run s = (result.mapError wrap, s') := by
    rw [step, ExceptT.run_mk, StateT.run_bind, ran]
    rfl
  rw [outcome, ran, Prod.mk.injEq, Prod.mk.injEq, mapError_eq_ok_iff]

theorem check_run {wrap : ε → CommandError} {x : Except ε α} :
    (check wrap x : Run (StateM σ) α).run.run s = (.ok a, s') ↔ x = .ok a ∧ s = s' := by
  have outcome : (check wrap x : Run (StateM σ) α).run.run s = (x.mapError wrap, s) := rfl
  rw [outcome, Prod.mk.injEq, mapError_eq_ok_iff]

end Run

namespace Rehearsal

variable {here : Path} {r r' : Rehearsal} {a : Artifact} {artifacts : List Artifact}

theorem session_read (path : Path) :
    ((session here).read path).run r = (r.disk.readText (here.join path), r) := by
  rfl

theorem session_write (path : Path) (text : String) : ((session here).write path text).run r =
    ((r.disk.writeText (here.join path) text).1,
      { r with disk := (r.disk.writeText (here.join path) text).2 }) := by
  rfl

def placeOf (here : Path) (a : Artifact) : Location := (here.join a.path).place

theorem sink_accepted {text : String} (laid : a.text? = some text) :
    ((session here).sink a).run r =
      ((r.disk.writeText (here.join a.path) text).1.map fun _ => .written,
        { r with disk := (r.disk.writeText (here.join a.path) text).2 }) := by
  rw [Session.sink, publisher, Artifact.text?_eq_some_iff.1 laid]
  dsimp only
  rw [StateT.run_bind, session_write]
  cases (r.disk.writeText (here.join a.path) text).1 <;> rfl

theorem sink_rejected (refused : a.text? = none) :
    ((session here).sink a).run r = (.ok .skipped, r) := by
  rw [Session.sink, publisher]
  cases laid : Sheet.format a.dialect a.contents with
  | error cause => rfl
  | ok text =>
    rw [Artifact.text?_eq_some_iff.2 laid] at refused
    cases refused

theorem sink_run {outcome : Outcome} (h : ((session here).sink a).run r = (.ok outcome, r')) :
    (∀ loc, r'.disk.file? loc =
        (if placeOf here a = loc then a.text? else none).or (r.disk.file? loc)) ∧
      (a.text?.isSome → r'.disk.Opens (here.join a.path)) := by
  cases laid : a.text? with
  | none =>
    rw [sink_rejected laid] at h
    cases h
    simp
  | some text =>
    rw [sink_accepted laid] at h
    obtain ⟨result, disk', wrote⟩ :
        ∃ result disk', r.disk.writeText (here.join a.path) text = (result, disk') := ⟨_, _, rfl⟩
    rw [wrote] at h
    cases result with
    | error cause => cases h
    | ok =>
      cases h
      obtain ⟨files, opens⟩ := Disk.file?_writeText wrote
      refine ⟨fun loc => ?_, fun _ => opens⟩
      rw [files, placeOf]
      by_cases same : loc = (here.join a.path).place
      · simp [same]
      · simp [same, Ne.symm same]

theorem publishAll_cons {outcomes : List Outcome}
    (h : (publishAll (session here).sink (a :: artifacts)).run r = (.ok outcomes, r')) :
    ∃ outcome r₁ rest, ((session here).sink a).run r = (.ok outcome, r₁) ∧
      (publishAll (session here).sink artifacts).run r₁ = (.ok rest, r') ∧
        outcomes = outcome :: rest := by
  obtain ⟨result, r₁, ran⟩ : ∃ result r₁, ((session here).sink a).run r = (result, r₁) :=
    ⟨_, _, rfl⟩
  cases result with
  | error cause =>
    rw [publishAll_refused ran] at h
    cases h
  | ok outcome =>
    rw [publishAll_taken ran] at h
    obtain ⟨result, r₂, ran'⟩ : ∃ result r₂,
        (publishAll (session here).sink artifacts).run r₁ = (result, r₂) := ⟨_, _, rfl⟩
    rw [ran'] at h
    cases result with
    | error cause => cases h
    | ok rest =>
      cases h
      exact ⟨outcome, r₁, rest, ran, ran', rfl⟩

/-- Files after publishing: each holds what was last laid out for it, or what it held. -/
theorem publishAll_run {outcomes : List Outcome}
    (h : (publishAll (session here).sink artifacts).run r = (.ok outcomes, r')) :
    ∀ loc, r'.disk.file? loc =
      ((artifacts.filter (placeOf here · = loc)).filterMap Artifact.text?).getLast?.or
        (r.disk.file? loc) := by
  induction artifacts generalizing r outcomes with
  | nil =>
    cases h
    simp
  | cons a artifacts ih =>
    obtain ⟨outcome, r₁, rest, first, others, rfl⟩ := publishAll_cons h
    intro loc
    rw [ih others, (sink_run first).1]
    by_cases here' : placeOf here a = loc
    · rw [List.filter_cons_of_pos (by simpa using here'), if_pos here']
      cases laid : a.text? with
      | none => simp [List.filterMap_cons_none laid]
      | some text =>
        rw [List.filterMap_cons_some laid, List.getLast?_cons]
        cases List.getLast? _ <;> rfl
    · simp [here']

theorem publishAll_opens {outcomes : List Outcome}
    (h : (publishAll (session here).sink artifacts).run r = (.ok outcomes, r'))
    (accepted : ∀ a ∈ artifacts, a.text?.isSome) (nonempty : artifacts ≠ []) :
    ∃ a ∈ artifacts, r'.disk.Opens (here.join a.path) := by
  induction artifacts generalizing r outcomes with
  | nil => contradiction
  | cons a artifacts ih =>
    obtain ⟨outcome, r₁, rest, first, others, rfl⟩ := publishAll_cons h
    obtain ⟨written, below⟩ := List.forall_mem_cons.1 accepted
    by_cases last : artifacts = []
    · subst last
      cases others
      exact ⟨a, by simp, (sink_run first).2 written⟩
    · obtain ⟨b, member, opens⟩ := ih others below last
      exact ⟨b, List.mem_cons_of_mem a member, opens⟩

/-- Artifacts whose files can be written are published, whether they can be laid out or not. -/
theorem publishAll_succeeds (h : ∀ a ∈ artifacts, r.disk.Accepts (here.join a.path)) :
    ∃ outcomes r', (publishAll (session here).sink artifacts).run r = (.ok outcomes, r') := by
  induction artifacts generalizing r with
  | nil => exact ⟨[], r, rfl⟩
  | cons a artifacts ih =>
    obtain ⟨first, others⟩ := List.forall_mem_cons.1 h
    have published : ∃ outcome r₁, ((session here).sink a).run r = (.ok outcome, r₁) ∧
        ∀ b ∈ artifacts, r₁.disk.Accepts (here.join b.path) := by
      cases laid : a.text? with
      | none => exact ⟨_, _, sink_rejected laid, others⟩
      | some text =>
        rw [sink_accepted laid, first.writeText]
        exact ⟨_, _, rfl, fun b hb => first.put (others b hb)⟩
    obtain ⟨outcome, r₁, ran, others⟩ := published
    obtain ⟨outcomes, r', rest⟩ := ih others
    refine ⟨outcome :: outcomes, r', ?_⟩
    rw [publishAll_taken ran, rest]
    rfl

theorem readInput_run {path : Path} {maker text : String} :
    (readInput (session here) path maker).run.run r = (.ok text, r') ↔
      r.disk.readText (here.join path) = .ok text ∧ r = r' := by
  rw [readInput, Run.step_run, session_read, Prod.mk.injEq]

theorem print_run {line : String} :
    ((session here).print line : Run (StateM Rehearsal) Unit).run.run r = (.ok (), r') ↔
      r' = { r with out := r.out ++ line ++ "\n" } := by
  constructor
  · intro h
    cases h
    rfl
  · rintro rfl
    rfl

end Rehearsal

end DesignTokens
