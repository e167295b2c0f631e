namespace DesignTokens

def putEntry {α : Type} (key : String) (value : α) : List (String × α) → List (String × α)
  | [] => [(key, value)]
  | entry :: rest =>
    if entry.1 = key then (key, value) :: rest else entry :: putEntry key value rest

def lookup? {α : Type} (key : String) : List (String × α) → Option α
  | [] => none
  | entry :: rest => if entry.1 = key then some entry.2 else lookup? key rest

def keysOf {α : Type} (entries : List (String × α)) : List String := entries.map Prod.fst

theorem keysOf_putEntry {α : Type} (key : String) (value : α) (entries : List (String × α)) :
    keysOf (putEntry key value entries) =
      if key ∈ keysOf entries then keysOf entries else keysOf entries ++ [key] := by
  induction entries with
  | nil => simp [putEntry, keysOf]
  | cons entry rest ih =>
    by_cases h : entry.1 = key
    · simp [putEntry, keysOf, h]
    · have h' : ¬key = entry.1 := fun e => h e.symm
      simp only [keysOf] at ih
      by_cases hk : key ∈ List.map Prod.fst rest <;>
        simp [putEntry, keysOf, h, h', hk, ih]

theorem lookup?_putEntry {α : Type} (key other : String) (value : α)
    (entries : List (String × α)) :
    lookup? other (putEntry key value entries) =
      if other = key then some value else lookup? other entries := by
  induction entries with
  | nil =>
    by_cases h : other = key
    · simp [putEntry, lookup?, h]
    · simp [putEntry, lookup?, h, Ne.symm h]
  | cons entry rest ih =>
    by_cases h : entry.1 = key <;> by_cases h' : other = key <;>
      simp_all [putEntry, lookup?, eq_comm]

theorem mem_of_lookup? {α : Type} {key : String} {value : α} {entries : List (String × α)}
    (h : lookup? key entries = some value) : (key, value) ∈ entries := by
  induction entries with
  | nil => simp [lookup?] at h
  | cons entry rest ih =>
    simp only [lookup?] at h
    split at h
    · obtain ⟨k, v⟩ := entry
      simp_all
    · exact List.mem_cons_of_mem _ (ih h)

/-- Entries whose keys are distinct. -/
structure Keyed (α : Type) where
  entries : List (String × α)
  distinct : (keysOf entries).Nodup
  deriving DecidableEq

namespace Keyed

variable {α : Type}

def empty : Keyed α := ⟨[], by simp [keysOf]⟩

instance : Inhabited (Keyed α) := ⟨empty⟩

def get? (m : Keyed α) (key : String) : Option α := lookup? key m.entries

def put (m : Keyed α) (key : String) (value : α) : Keyed α :=
  ⟨putEntry key value m.entries, by
    rw [keysOf_putEntry]
    split
    · exact m.distinct
    · rename_i h
      exact List.nodup_append.2 ⟨m.distinct, by simp, by
        intro a ha b hb e
        simp at hb
        exact h (hb ▸ e ▸ ha)⟩⟩

def ofList (entries : List (String × α)) : Keyed α :=
  entries.foldl (fun m entry => m.put entry.1 entry.2) empty

def filter (m : Keyed α) (keep : String → α → Bool) : Keyed α :=
  ⟨m.entries.filter fun entry => keep entry.1 entry.2,
    m.distinct.sublist (List.filter_sublist.map _)⟩

def modify (m : Keyed α) (key : String) (change : α → α) : Keyed α :=
  match m.get? key with
  | none => m
  | some value => m.put key (change value)

def keys (m : Keyed α) : List String := keysOf m.entries

def values (m : Keyed α) : List α := m.entries.map Prod.snd

def size (m : Keyed α) : Nat := m.entries.length

end Keyed

end DesignTokens
