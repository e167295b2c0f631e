import DesignTokens.Proofs.Store.Memory
import Mathlib.Data.Finset.Card

namespace DesignTokens

section

variable {σ : Type} {sink : Sink (StateM σ)} {s s' : σ} {a : Artifact}

theorem publishAll_refused {cause : FileError} (refused : (sink a).run s = (.error cause, s'))
    (rest : List Artifact) : (publishAll sink (a :: rest)).run s = (.error (a.path, cause), s') := by
  rw [publishAll, StateT.run_bind, refused]
  rfl

theorem publishAll_taken {outcome : Outcome} (taken : (sink a).run s = (.ok outcome, s'))
    (rest : List Artifact) : (publishAll sink (a :: rest)).run s =
      ((publishAll sink rest).run s').map (·.map (outcome :: ·)) id := by
  rw [publishAll, StateT.run_bind, taken]
  obtain ⟨published, after, ran⟩ : ∃ published after,
      (publishAll sink rest).run s' = (published, after) := ⟨_, _, rfl⟩
  have next : (publishAll sink rest) s' = (published, after) := ran
  cases published <;> simp [next, StateT.run, bind, StateT.bind] <;> rfl

end

namespace Artifact

def file? (a : Artifact) : Option (Path × String) :=
  (Sheet.format a.dialect a.contents).toOption.map (a.path, ·)

def outcome (a : Artifact) : Outcome := if a.file?.isSome then .written else .skipped

end Artifact

namespace Store

def writeAll (store : Store) (files : List (Path × String)) : Store :=
  files.foldl (fun store file => store.write file.1 file.2) store

def keys (store : Store) : List (List (List Nat)) := store.files.map fun file => file.1.key

def Sorted (store : Store) : Prop := store.keys.Pairwise fun a b => compare a b = .lt

variable {store : Store}

theorem writeAll_append (store : Store) (files more : List (Path × String)) :
    store.writeAll (files ++ more) = (store.writeAll files).writeAll more :=
  List.foldl_append

theorem run_sink (a : Artifact) (store : Store) :
    (sink a).run store = (.ok a.outcome, store.writeAll a.file?.toList) := by
  unfold sink publisher Artifact.outcome Artifact.file?
  cases Sheet.format a.dialect a.contents <;> rfl

theorem publishAll_sink (artifacts : List Artifact) (store : Store) :
    (publishAll sink artifacts).run store =
      (.ok (artifacts.map Artifact.outcome), store.writeAll (artifacts.filterMap Artifact.file?)) := by
  induction artifacts generalizing store with
  | nil => rfl
  | cons a artifacts ih =>
    rw [publishAll_taken (run_sink a store), ih]
    cases file : a.file? with
    | none => rw [List.filterMap_cons_none file]; rfl
    | some written => rw [List.filterMap_cons_some file]; rfl

theorem publishAll_singleton {artifact : Artifact} {text : String}
    (laid : Sheet.format artifact.dialect artifact.contents = .ok text) (store : Store) :
    (publishAll sink [artifact]).run store =
      (.ok [.written], store.write artifact.path text) := by
  have file : artifact.file? = some (artifact.path, text) := by
    rw [Artifact.file?, laid]
    rfl
  simp [publishAll_sink, Artifact.outcome, file, writeAll]

theorem count_written (artifacts : List Artifact) :
    (artifacts.map Artifact.outcome).count .written = (artifacts.filterMap Artifact.file?).length := by
  induction artifacts with
  | nil => rfl
  | cons a artifacts ih => cases file : a.file? <;> simp [Artifact.outcome, file, ih]

theorem count_written_add_skipped (outcomes : List Outcome) :
    outcomes.count .written + outcomes.count .skipped = outcomes.length := by
  induction outcomes with
  | nil => rfl
  | cons outcome outcomes ih => cases outcome <;> simp <;> omega

theorem keys_write (store : Store) (path : Path) (contents : String) :
    ∀ key, key ∈ (store.write path contents).keys ↔ key = path.key ∨ key ∈ store.keys := by
  obtain ⟨files⟩ := store
  intro key
  simp only [keys, write]
  induction files with
  | nil => simp [put]
  | cons file rest ih =>
    rw [put]
    cases order : compare path.key file.1.key with
    | lt => simp
    | eq => simp [Std.LawfulEqOrd.eq_of_compare order]
    | gt =>
      simp only [List.map_cons, List.mem_cons, ih]
      exact or_left_comm

theorem Sorted.write (h : store.Sorted) (path : Path) (contents : String) :
    (store.write path contents).Sorted := by
  obtain ⟨files⟩ := store
  induction files with
  | nil => simp [Sorted, keys, Store.write, put]
  | cons file rest ih =>
    have below := List.pairwise_cons.1 h
    have inner := ih below.2
    simp only [Sorted, keys, Store.write, put] at inner ⊢
    cases order : compare path.key file.1.key with
    | lt =>
      refine List.pairwise_cons.2 ⟨?_, h⟩
      intro key member
      rcases List.mem_cons.1 member with rfl | member
      · exact order
      · exact Std.TransCmp.lt_trans order (below.1 key member)
    | eq => exact h
    | gt =>
      refine List.pairwise_cons.2 ⟨?_, inner⟩
      intro key member
      rcases (keys_write ⟨rest⟩ path contents key).1 member with rfl | member
      · exact Std.OrientedCmp.gt_iff_lt.1 order
      · exact below.1 key member

theorem Sorted.writeAll (h : store.Sorted) (files : List (Path × String)) :
    (store.writeAll files).Sorted := by
  induction files generalizing store with
  | nil => exact h
  | cons file files ih => exact ih (h.write file.1 file.2)

theorem Sorted.nodup (h : store.Sorted) : store.keys.Nodup := by
  refine List.Pairwise.imp ?_ h
  rintro a b below rfl
  rw [Std.ReflOrd.compare_self] at below
  cases below

theorem mem_keys_writeAll (store : Store) (files : List (Path × String)) (key : List (List Nat)) :
    key ∈ (store.writeAll files).keys ↔ (∃ file ∈ files, file.1.key = key) ∨ key ∈ store.keys := by
  induction files generalizing store with
  | nil => simp [writeAll]
  | cons file files ih =>
    have step : store.writeAll (file :: files) = (store.write file.1 file.2).writeAll files := rfl
    rw [step, ih, keys_write]
    simp only [List.mem_cons, exists_eq_or_imp, eq_comm (a := key)]
    exact or_assoc.symm.trans (or_congr_left or_comm)

theorem length_writeAll_empty (files : List (Path × String)) :
    (empty.writeAll files).files.length = (files.map fun file => file.1.key).toFinset.card := by
  have start : empty.Sorted := .nil
  have sorted := start.writeAll files
  have size : (empty.writeAll files).keys.length = (empty.writeAll files).files.length :=
    List.length_map _
  rw [← size, ← List.toFinset_card_of_nodup sorted.nodup]
  congr 1
  ext key
  have member := mem_keys_writeAll empty files key
  simpa [show empty.keys = [] from rfl] using member

theorem get?_writeAll (store : Store) (files : List (Path × String)) (path : Path) :
    (store.writeAll files).get? path =
      ((files.reverse.find? fun file => path.key = file.1.key).map Prod.snd).or (store.get? path) := by
  induction files using List.reverseRecOn with
  | nil => rfl
  | append_singleton files file ih =>
    have last : store.writeAll (files ++ [file]) = (store.writeAll files).write file.1 file.2 :=
      writeAll_append store files [file]
    rw [last, get?_write, ih, List.reverse_concat, List.find?_cons]
    by_cases same : path.key = file.1.key <;> simp [same]

theorem get?_writeAll_last (store : Store) {before after : List (Path × String)}
    {file : Path × String} (last : ∀ other ∈ after, file.1.key ≠ other.1.key) :
    (store.writeAll (before ++ file :: after)).get? file.1 = some file.2 := by
  have none : (after.reverse.find? fun other => file.1.key = other.1.key) = none := by
    simpa using last
  simp [get?_writeAll, none]

end Store

end DesignTokens
