import DesignTokens.Graph.Decode
import DesignTokens.Proofs.Json.Approximation
import Mathlib.Data.List.Forall2
import Mathlib.Data.List.Induction

/-!
What a document is written as after it was read, told from the tree of the document and without the
readers: which fields are kept, in which order, and what becomes of their values.
-/

namespace DesignTokens

section

variable {α β : Type}

theorem forall₂_of_mapM_eq_some {f : α → Option β} {xs : List α} {ys : List β}
    (h : xs.mapM f = some ys) : List.Forall₂ (fun x y => f x = some y) xs ys := by
  induction xs generalizing ys with
  | nil =>
    cases h
    exact .nil
  | cons x xs ih =>
    simp only [List.mapM_cons, Option.bind_eq_bind, Option.bind_eq_some_iff] at h
    obtain ⟨y, first, ys, rest, ⟨⟩⟩ := h
    exact .cons first (ih rest)

theorem Keyed.ofList_concat (entries : List (String × α)) (entry : String × α) :
    ofList (entries ++ [entry]) = (ofList entries).put entry.1 entry.2 := by
  simp [ofList, List.foldl_append]

theorem Keyed.entries_ofList (entries : List (String × α)) : (ofList entries).entries =
    entries.foldl (fun entered entry => putEntry entry.1 entry.2 entered) [] :=
  (List.foldl_hom Keyed.entries fun _ _ => rfl).symm

theorem Keyed.keysOf_ofList (entries : List (String × α)) :
    keysOf (ofList entries).entries = (keysOf entries).eraseDups := by
  -- Entries are put in from the front, so the induction takes off the last one.
  induction entries using List.reverseRecOn with
  | nil => rfl
  | append_singleton entries entry ih =>
    have keys : keysOf (entries ++ [entry]) = keysOf entries ++ [entry.1] := List.map_append
    rw [ofList_concat, keys, List.eraseDups_append, ← ih]
    change keysOf (putEntry entry.1 entry.2 (ofList entries).entries) = _
    rw [keysOf_putEntry, ih]
    by_cases known : entry.1 ∈ keysOf entries
    · simp [List.mem_eraseDups, known, List.removeAll]
    · simp [List.mem_eraseDups, known, List.removeAll, List.eraseDups_cons]

theorem Keyed.lookup?_ofList (key : String) (entries : List (String × α)) :
    lookup? key (ofList entries).entries = lookup? key entries.reverse := by
  induction entries using List.reverseRecOn with
  | nil => rfl
  | append_singleton entries entry ih =>
    rw [ofList_concat, List.reverse_append, List.reverse_singleton, List.singleton_append, lookup?]
    change lookup? key (putEntry entry.1 entry.2 (ofList entries).entries) = _
    rw [lookup?_putEntry, ih]
    simp only [eq_comm]

theorem lookup?_map_value (f : α → β) (key : String) (entries : List (String × α)) :
    lookup? key (entries.map fun entry => (entry.1, f entry.2)) = (lookup? key entries).map f := by
  induction entries with
  | nil => rfl
  | cons entry entries ih =>
    rw [List.map_cons, lookup?, lookup?, ih]
    split <;> rfl

theorem lookup?_forall₂ {r : α → β → Prop} {key : String} {xs : List (String × α)}
    {ys : List (String × β)} {y : β} (h : List.Forall₂ (fun x y => x.1 = y.1 ∧ r x.2 y.2) xs ys)
    (found : lookup? key ys = some y) : ∃ x, lookup? key xs = some x ∧ r x y := by
  induction h with
  | nil => cases found
  | cons first _ ih =>
    rw [lookup?] at found ⊢
    rw [first.1]
    split at found
    · rename_i same
      cases found
      exact ⟨_, if_pos same, first.2⟩
    · rename_i other
      rw [if_neg other]
      exact ih found

end

namespace Json

/-- How a part of a document may be written again. -/
abbrev Change := Node → Json → Prop

def EachItem (change : Change) : Change := fun node v =>
  ∃ items values, node = .array items ∧ v = .array values ∧ List.Forall₂ change items values

def Node.HasFields (node : Node) (fields : List (String × Node)) : Prop :=
  node = .object (fields.map fun field => (some field.1, field.2))

/-- Fields are written again: each key once, where it comes first, with its last value. -/
structure Entered (change : Change) (source : List (String × Node))
    (written : List (String × Json)) : Prop where
  keys : keysOf written = (keysOf source).eraseDups
  values : ∀ key v, lookup? key written = some v →
    ∃ node, lookup? key source.reverse = some node ∧ change node v

/-- Written with the value it has, numbers as they are read. -/
inductive Verbatim : Node → Json → Prop
  | null : Verbatim .null .null
  | bool (flag : Bool) : Verbatim (.bool flag) (.bool flag)
  | string (text : String) : Verbatim (.string (some text)) (.string text)
  | number {numeral : List Char} {n : Number} : n.Reads numeral →
      Verbatim (.number numeral) (.number n)
  | array {items : List Node} {values : List Json} : List.Forall₂ Verbatim items values →
      Verbatim (.array items) (.array values)
  | object {node : Node} {source : List (String × Node)} {written : List (String × Json)} :
      node.HasFields source → keysOf written = (keysOf source).eraseDups →
        (∀ key last v, lookup? key source.reverse = some last → lookup? key written = some v →
          Verbatim last v) → Verbatim node (.object written)

def EachValue (change : Change) : Change := fun node v =>
  ∃ source written, node.HasFields source ∧ v = .object written ∧ Entered change source written

/-- A field with a meaning. Where it is absent its `default` is written, if there is one. -/
structure Field where
  name : String
  default : Option Json
  change : Change

def Field.Fills (f : Field) (found : List Node) (v : Json) : Prop :=
  match found with
  | [] => f.default = some v
  | [node] => f.change node v
  | _ => False

def valuesOf (name : String) (fields : List (String × Node)) : List Node :=
  (fields.filter (·.1 = name)).map Prod.snd

def Laid (layout : List Field) (source : List (String × Node)) (written : List (String × Json)) :
    Prop :=
  List.Forall₂ (fun f field => field.1 = f.name ∧ f.Fills (valuesOf f.name source) field.2)
    layout written

/-- A record with further fields: they come after those of the layout. -/
def OpenRecord (layout : List Field) : Change := fun node v =>
  ∃ source known further, node.HasFields source ∧ v = .object (known ++ further) ∧
    Laid layout source known ∧
      Entered Verbatim (source.filter fun field => field.1 ∉ layout.map Field.name) further

/-- A record with the fields of a layout only, by name or by place; others are left out. -/
def ClosedRecord (layout : List Field) : Change := fun node v =>
  ∃ known, v = .object known ∧
    ((∃ source, node.HasFields source ∧ Laid layout source known) ∨
      ∃ items, node = .array items ∧ items.length ≤ layout.length ∧
        List.Forall₂ (fun (f : Field × Nat) field =>
          field.1 = f.1.name ∧ f.1.Fills items[f.2]?.toList field.2) layout.zipIdx known)

def itemsToJson {α : Type} (write : α → Json) (xs : List α) : Json := .array (xs.map write)

def entriesToJson {α : Type} (write : α → Json) (m : Keyed α) : Json :=
  .object (m.entries.map fun entry => (entry.1, write entry.2))

def Carries {α : Type} (read : Reader α) (write : α → Json) (change : Change) : Prop :=
  ∀ room node x, read room node = some x → change node (write x)

section

variable {α : Type} {read : Reader α} {write : α → Json} {change : Change} {room : Nat}

theorem text?_carries : Carries text? .string Verbatim := by
  intro room node x h
  cases node with
  | string text =>
    cases h
    exact .string x
  | _ => cases h

theorem flag?_carries : Carries flag? .bool Verbatim := by
  intro room node x h
  cases node with
  | bool flag =>
    cases h
    exact .bool x
  | _ => cases h

theorem node_of_items? {node : Node} {inner : Nat} {items : List Node}
    (h : items? room node = some (inner, items)) : node = .array items := by
  unfold items? at h
  split at h
  · cases h
    rfl
  · cases h

theorem list?_carries (carries : Carries read write change) :
    Carries (list? read) (itemsToJson write) (EachItem change) := by
  intro room node xs h
  simp only [list?, Option.bind_eq_bind, Option.bind_eq_some_iff] at h
  obtain ⟨⟨inner, items⟩, opened, all⟩ := h
  refine ⟨items, _, node_of_items? opened, rfl, List.forall₂_map_right_iff.2 ?_⟩
  exact (forall₂_of_mapM_eq_some all).imp fun item x found => carries inner item x found

theorem hasFields_of_fields? {node : Node} {inner : Nat} {fields : List (String × Node)}
    (h : fields? room node = some (inner, fields)) : node.HasFields fields := by
  unfold fields? at h
  split at h
  · rename_i nodes
    obtain ⟨read, all, ⟨⟩⟩ := Option.map_eq_some_iff.1 h
    refine congrArg Node.object ?_
    refine List.forall₂_eq_eq_eq ▸ List.forall₂_map_right_iff.2
      ((forall₂_of_mapM_eq_some all).imp fun field read same => ?_)
    obtain ⟨key, named, ⟨⟩⟩ := Option.map_eq_some_iff.1 same
    exact Prod.ext named rfl
  · cases h

theorem entered_of_forall₂ {source : List (String × Node)} {entries : List (String × α)}
    (each : List.Forall₂ (fun field entry => field.1 = entry.1 ∧ change field.2 (write entry.2))
      source entries) :
    Entered change source
      ((Keyed.ofList entries).entries.map fun entry => (entry.1, write entry.2)) := by
  constructor
  · have keys : keysOf source = keysOf entries := by
      refine List.forall₂_eq_eq_eq ▸ ?_
      exact List.forall₂_map_left_iff.2 (List.forall₂_map_right_iff.2 (each.imp fun _ _ h => h.1))
    have same : keysOf ((Keyed.ofList entries).entries.map fun entry => (entry.1, write entry.2)) =
        keysOf (Keyed.ofList entries).entries := by
      simp [keysOf, Function.comp_def]
    rw [same, Keyed.keysOf_ofList, keys]
  · intro key v found
    rw [lookup?_map_value, Keyed.lookup?_ofList, Option.map_eq_some_iff] at found
    obtain ⟨x, found, rfl⟩ := found
    exact lookup?_forall₂ (r := fun node x => change node (write x))
      (List.forall₂_reverse_iff.2 each) found

theorem entered_of_mapM {source : List (String × Node)} {entries : List (String × α)}
    (all : source.mapM (fun field => (read room field.2).map (field.1, ·)) = some entries)
    (carries : Carries read write change) :
    Entered change source
      ((Keyed.ofList entries).entries.map fun entry => (entry.1, write entry.2)) := by
  refine entered_of_forall₂ ((forall₂_of_mapM_eq_some all).imp fun field entry found => ?_)
  obtain ⟨x, value, rfl⟩ := Option.map_eq_some_iff.1 found
  exact ⟨rfl, carries room field.2 x value⟩

theorem keyed?_carries (carries : Carries read write change) :
    Carries (keyed? read) (entriesToJson write) (EachValue change) := by
  intro room node m h
  simp only [keyed?, Option.bind_eq_bind, Option.bind_eq_some_iff] at h
  obtain ⟨⟨inner, fields⟩, opened, entries, all, ⟨⟩⟩ := h
  exact ⟨fields, _, hasFields_of_fields? opened, rfl, entered_of_mapM all carries⟩

variable {f : Field} {fields : List (String × Node)} {x default : α}

theorem valuesOf_of_single? {name : String} {found : Option Node}
    (h : single? name fields = some found) : valuesOf name fields = found.toList := by
  unfold single? at h
  rw [valuesOf]
  split at h
  · cases h
    simp [*]
  · cases h
    simp [*]
  · cases h

theorem Field.fills_required (write : α → Json) (carries : Carries read write f.change)
    (h : required? read room f.name fields = some x) :
    f.Fills (valuesOf f.name fields) (write x) := by
  simp only [required?, Option.bind_eq_bind, Option.bind_eq_some_iff] at h
  obtain ⟨found, one, node, rfl, value⟩ := h
  rw [valuesOf_of_single? one]
  exact carries room node x value

theorem Field.fills_optional (write : α → Json) (carries : Carries read write f.change)
    (filled : f.default = some (write default))
    (h : optional? read default room f.name fields = some x) :
    f.Fills (valuesOf f.name fields) (write x) := by
  simp only [optional?, Option.bind_eq_bind, Option.bind_eq_some_iff] at h
  obtain ⟨found, one, value⟩ := h
  rw [valuesOf_of_single? one]
  cases found with
  | none =>
    cases value
    exact filled
  | some node => exact carries room node x value

theorem Field.fills_optionalAt {items : List Node} {i : Nat} (write : α → Json)
    (carries : Carries read write f.change) (filled : f.default = some (write default))
    (h : optionalAt? read default room i items = some x) :
    f.Fills items[i]?.toList (write x) := by
  rw [optionalAt?] at h
  split at h
  · rename_i absent
    cases h
    rw [absent]
    exact filled
  · rename_i node present
    rw [present]
    exact carries room node x h

theorem verbatim_object {source : List (String × Node)} {entries : List (String × Json)}
    (each : List.Forall₂ (fun field entry => field.1 = entry.1 ∧ Verbatim field.2 entry.2)
      source entries) : Verbatim (.object (source.map fun field => (some field.1, field.2)))
        (.object (Keyed.ofList entries).entries) := by
  have same : (Keyed.ofList entries).entries.map (fun entry => (entry.1, id entry.2)) =
      (Keyed.ofList entries).entries := List.map_id _
  have entered : Entered Verbatim source (Keyed.ofList entries).entries :=
    same ▸ entered_of_forall₂ each
  refine .object rfl entered.keys fun key last v isLast found => ?_
  obtain ⟨node, isNode, verbatim⟩ := entered.values key v found
  rw [isLast] at isNode
  cases isNode
  exact verbatim

mutual

theorem verbatim_of_ofNode? : {room : Nat} → (node : Node) → {v : Json} →
    ofNode? room node = some v → Verbatim node v
  | _, .null, _, read => by
    cases read
    exact .null
  | _, .bool flag, _, read => by
    cases read
    exact .bool flag
  | _, .number numeral, _, read => by
    simp only [ofNode?, Option.map_eq_some_iff] at read
    obtain ⟨n, read, rfl⟩ := read
    exact .number (Number.reads_of_ofNumeral? read)
  | _, .string text, _, read => by
    simp only [ofNode?, Option.map_eq_some_iff] at read
    obtain ⟨s, rfl, rfl⟩ := read
    exact .string s
  | 0, .array _, _, read | 0, .object _, _, read => by cases read
  | room + 1, .array items, _, read => by
    simp only [ofNode?, Option.map_eq_some_iff] at read
    obtain ⟨values, read, rfl⟩ := read
    exact .array (verbatim_of_ofItems? items read)
  | room + 1, .object fields, _, read => by
    simp only [ofNode?, Option.map_eq_some_iff] at read
    obtain ⟨values, read, rfl⟩ := read
    obtain ⟨source, entries, rfl, each, rfl⟩ := entries_of_ofFields? fields read
    rw [← Keyed.entries_ofList]
    exact verbatim_object each

theorem verbatim_of_ofItems? : {room : Nat} → (nodes : List Node) → {items : List Json} →
    ofItems? room nodes = some items → List.Forall₂ Verbatim nodes items
  | _, [], _, read => by
    cases read
    exact .nil
  | room, node :: nodes, _, read => by
    simp only [ofItems?, Option.bind_eq_bind, Option.bind_eq_some_iff] at read
    obtain ⟨item, first, items, rest, ⟨⟩⟩ := read
    exact .cons (verbatim_of_ofNode? node first) (verbatim_of_ofItems? nodes rest)

theorem entries_of_ofFields? : {room : Nat} → (nodes : List (Option String × Node)) →
    {entered fields : List (String × Json)} → ofFields? room nodes entered = some fields →
      ∃ (source : List (String × Node)) (entries : List (String × Json)),
        nodes = source.map (fun field => (some field.1, field.2)) ∧
        List.Forall₂ (fun field entry => field.1 = entry.1 ∧ Verbatim field.2 entry.2)
          source entries ∧
        fields = entries.foldl (fun entered entry => putEntry entry.1 entry.2 entered) entered
  | _, [], _, _, read => by
    cases read
    exact ⟨[], [], rfl, .nil, rfl⟩
  | room, (key?, node) :: nodes, entered, _, read => by
    simp only [ofFields?, Option.bind_eq_bind, Option.bind_eq_some_iff] at read
    obtain ⟨key, rfl, value, first, rest⟩ := read
    obtain ⟨source, entries, rfl, each, same⟩ := entries_of_ofFields? nodes rest
    exact ⟨(key, node) :: source, (key, value) :: entries, rfl,
      .cons ⟨rfl, verbatim_of_ofNode? node first⟩ each, same⟩

end

theorem verbatim_carries : Carries ofNode? id Verbatim := fun _ node _ h =>
  verbatim_of_ofNode? node h

theorem entered_of_extra? {known : List String} {extra : Keyed Json}
    (h : extra? known room fields = some extra) :
    Entered Verbatim (fields.filter fun field => field.1 ∉ known) extra.entries := by
  simp only [extra?, Option.bind_eq_bind, Option.bind_eq_some_iff] at h
  obtain ⟨entries, all, ⟨⟩⟩ := h
  have others : (fields.filter fun field => !known.contains field.1) =
      fields.filter fun field => field.1 ∉ known := by simp
  rw [others] at all
  simpa using entered_of_mapM all verbatim_carries

end

end Json

end DesignTokens
