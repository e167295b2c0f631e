import DesignTokens.Graph.Decode
import DesignTokens.Proofs.Graph.Value

namespace DesignTokens

section

variable {α β : Type}

theorem mapM_eq_some_map {f : α → Option β} {g : α → β} {xs : List α}
    (h : ∀ x ∈ xs, f x = some (g x)) : xs.mapM f = some (xs.map g) := by
  induction xs with
  | nil => rfl
  | cons x xs ih =>
    obtain ⟨first, rest⟩ := List.forall_mem_cons.1 h
    simp [List.mapM_cons, first, ih rest]

theorem exists_of_mapM_eq_some {f : α → Option β} {xs : List α} {ys : List β}
    (h : xs.mapM f = some ys) : ∀ y ∈ ys, ∃ x ∈ xs, f x = some y := by
  induction xs generalizing ys with
  | nil =>
    cases h
    simp
  | cons x xs ih =>
    simp only [List.mapM_cons, Option.bind_eq_bind, Option.bind_eq_some_iff] at h
    obtain ⟨y, first, ys, rest, ⟨⟩⟩ := h
    refine List.forall_mem_cons.2 ⟨⟨x, by simp, first⟩, fun z hz => ?_⟩
    obtain ⟨w, hw, read⟩ := ih rest z hz
    exact ⟨w, List.mem_cons_of_mem _ hw, read⟩

namespace Keyed

theorem entries_foldl_put (entries : List (String × α)) (m : Keyed α)
    (distinct : (keysOf (m.entries ++ entries)).Nodup) :
    (entries.foldl (fun m entry => m.put entry.1 entry.2) m).entries = m.entries ++ entries := by
  induction entries generalizing m with
  | nil => simp
  | cons entry entries ih =>
    have fresh : entry.1 ∉ keysOf m.entries := by
      intro known
      simp only [keysOf, List.map_append, List.map_cons] at distinct known
      exact (List.nodup_append.1 distinct).2.2 entry.1 known entry.1 (by simp) rfl
    have put : (m.put entry.1 entry.2).entries = m.entries ++ [entry] :=
      putEntry_of_not_mem fresh
    rw [List.foldl_cons, ih _ (by rw [put]; simpa using distinct), put]
    simp

theorem ofList_entries (m : Keyed α) : ofList m.entries = m := by
  have entries : (ofList m.entries).entries = m.entries :=
    entries_foldl_put m.entries empty m.distinct
  cases m
  cases h : ofList _
  simp_all

theorem mem_foldl_put {entries : List (String × α)} {m : Keyed α} {entry : String × α}
    (h : entry ∈ (entries.foldl (fun m e => m.put e.1 e.2) m).entries) :
    entry ∈ m.entries ∨ entry ∈ entries := by
  induction entries generalizing m with
  | nil => exact .inl h
  | cons first entries ih =>
    rcases ih h with known | later
    · exact (mem_putEntry known).elim (fun same => .inr (by simp [same])) .inl
    · exact .inr (List.mem_cons_of_mem _ later)

theorem mem_ofList {entries : List (String × α)} {entry : String × α}
    (h : entry ∈ (ofList entries).entries) : entry ∈ entries :=
  (mem_foldl_put h).resolve_left (by simp [empty])

end Keyed

end

namespace Json

variable {α : Type} {read : Reader α} {room : Nat} {name : String} {v : Json}
  {fields : List (String × Json)}

def fieldNodes (fields : List (String × Json)) : List (String × Node) :=
  fields.map fun field => (field.1, field.2.toNode)

theorem toNode_ne_null (h : v ≠ .null) : v.toNode ≠ .null := by
  cases v <;> simp_all [toNode]

theorem fields?_toNode (room : Nat) (fields : List (String × Json)) :
    fields? (room + 1) (object fields).toNode = some (room, fieldNodes fields) := by
  have all : (fields.map fun field => (some field.1, field.2.toNode)).mapM
      (fun (field : Option String × Node) => field.1.map (·, field.2)) =
        some (fieldNodes fields) := by
    rw [List.mapM_map]
    exact mapM_eq_some_map fun _ _ => rfl
  rw [toNode, toNodeFields_eq, fields?, all]
  rfl

theorem filter_fieldNodes (distinct : (keysOf fields).Nodup) (name : String) :
    (fieldNodes fields).filter (fun field => decide (field.1 = name)) =
      (lookup? name fields).toList.map fun v => (name, v.toNode) := by
  induction fields with
  | nil => rfl
  | cons field fields ih =>
    obtain ⟨fresh, rest⟩ := List.nodup_cons.1 distinct
    rw [fieldNodes, List.map_cons, lookup?]
    by_cases same : field.1 = name
    · have none : lookup? name fields = none := by
        cases found : lookup? name fields with
        | none => rfl
        | some v =>
          have known : field.1 ∈ keysOf fields :=
            List.mem_map.2 ⟨(name, v), mem_of_lookup? found, same.symm⟩
          exact absurd known fresh
      have later := ih rest
      rw [none] at later
      rw [List.filter_cons_of_pos (by simpa using same), if_pos same]
      exact congrArg₂ List.cons (by rw [same]) later
    · rw [List.filter_cons_of_neg (by simpa using same), if_neg same]
      exact ih rest

theorem single?_fieldNodes (distinct : (keysOf fields).Nodup) (name : String) :
    single? name (fieldNodes fields) = some ((lookup? name fields).map toNode) := by
  rw [single?, filter_fieldNodes distinct]
  cases lookup? name fields <;> rfl

theorem required?_fieldNodes (distinct : (keysOf fields).Nodup)
    (found : lookup? name fields = some v) (read : Reader α) (room : Nat) :
    required? read room name (fieldNodes fields) = read room v.toNode := by
  simp [required?, single?_fieldNodes distinct, found]

theorem optional?_fieldNodes (distinct : (keysOf fields).Nodup)
    (found : lookup? name fields = some v) (read : Reader α) (default : α) (room : Nat) :
    optional? read default room name (fieldNodes fields) = read room v.toNode := by
  simp [optional?, single?_fieldNodes distinct, found]

theorem list?_toNode {write : α → Json} {xs : List α}
    (back : ∀ x ∈ xs, read room (write x).toNode = some x) :
    list? read (room + 1) (array (xs.map write)).toNode = some xs := by
  have all : ((xs.map write).map toNode).mapM (read room) = some xs := by
    rw [List.map_map, List.mapM_map]
    exact (mapM_eq_some_map (g := id) back).trans (by rw [List.map_id])
  rw [list?, toNode, toNodes_eq]
  exact all

theorem keyed?_toNode {write : α → Json} {m : Keyed α}
    (back : ∀ entry ∈ m.entries, read room (write entry.2).toNode = some entry.2) :
    keyed? read (room + 1) (object (m.entries.map fun entry => (entry.1, write entry.2))).toNode =
      some m := by
  have all : (fieldNodes (m.entries.map fun entry => (entry.1, write entry.2))).mapM
      (fun field => (read room field.2).map (field.1, ·)) = some m.entries := by
    rw [fieldNodes, List.map_map, List.mapM_map]
    exact (mapM_eq_some_map (g := id) fun entry he => by simp [back entry he]).trans
      (by rw [List.map_id])
  simp [keyed?, fields?_toNode, all, Keyed.ofList_entries]

theorem fits_keyed {write : α → Json} {m : Keyed α}
    (fits : ∀ entry ∈ m.entries, (write entry.2).Fits room) :
    (Json.object (m.entries.map fun entry => (entry.1, write entry.2))).Fits (room + 1) := by
  have keys : keysOf (m.entries.map fun entry => (entry.1, write entry.2)) = keysOf m.entries := by
    simp [keysOf, Function.comp_def]
  refine .object (keys ▸ m.distinct) fun field hf => ?_
  obtain ⟨entry, he, rfl⟩ := List.mem_map.1 hf
  exact fits entry he

end Json

open Json

variable {room : Nat}

structure FurtherFields (known : List String) (room : Nat) (extra : Keyed Json) : Prop where
  apart : ∀ entry ∈ extra.entries, entry.1 ∉ known
  fits : ∀ entry ∈ extra.entries, entry.2.Fits room

namespace FurtherFields

variable {fields : List (String × Json)} {extra : Keyed Json}

theorem nodup (further : FurtherFields (keysOf fields) room extra)
    (distinct : (keysOf fields).Nodup) : (keysOf (fields ++ extra.entries)).Nodup := by
  rw [keysOf, List.map_append]
  refine List.nodup_append.2 ⟨distinct, extra.distinct, ?_⟩
  rintro key known _ entered rfl
  obtain ⟨entry, he, rfl⟩ := List.mem_map.1 entered
  exact further.apart entry he known

theorem fits_object (further : FurtherFields (keysOf fields) room extra)
    (distinct : (keysOf fields).Nodup) (fits : ∀ field ∈ fields, field.2.Fits room) :
    (Json.object (fields ++ extra.entries)).Fits (room + 1) :=
  .object (further.nodup distinct) (List.forall_mem_append.2 ⟨fits, further.fits⟩)

theorem filter (further : FurtherFields (keysOf fields) room extra) :
    (fieldNodes (fields ++ extra.entries)).filter (fun field => !(keysOf fields).contains field.1) =
      fieldNodes extra.entries := by
  have known :
      (fieldNodes fields).filter (fun field => !(keysOf fields).contains field.1) = [] := by
    rw [List.filter_eq_nil_iff]
    intro field hf
    obtain ⟨known, hk, rfl⟩ := List.mem_map.1 hf
    have member : known.1 ∈ keysOf fields := List.mem_map.2 ⟨known, hk, rfl⟩
    simp [member]
  have others :
      (fieldNodes extra.entries).filter (fun field => !(keysOf fields).contains field.1) =
        fieldNodes extra.entries := by
    rw [List.filter_eq_self]
    intro field hf
    obtain ⟨entry, he, rfl⟩ := List.mem_map.1 hf
    simp [further.apart entry he]
  have split :
      fieldNodes (fields ++ extra.entries) = fieldNodes fields ++ fieldNodes extra.entries :=
    List.map_append
  rw [split, List.filter_append, known, others, List.nil_append]

theorem read (further : FurtherFields (keysOf fields) room extra)
    (exact : (Json.object (fields ++ extra.entries)).Exact) :
    extra? (keysOf fields) room (fieldNodes (fields ++ extra.entries)) = some extra := by
  have back (entry : String × Json) (he : entry ∈ extra.entries) :
      ofNode? room entry.2.toNode = some entry.2 :=
    (further.fits entry he).ofNode? (exact.field entry (List.mem_append_right _ he))
  have all :
      (fieldNodes extra.entries).mapM (fun field => (ofNode? room field.2).map (field.1, ·)) =
        some extra.entries := by
    rw [fieldNodes, List.mapM_map]
    exact (mapM_eq_some_map (g := id) fun entry he => by simp [back entry he]).trans
      (by rw [List.map_id])
  simp only [extra?, further.filter]
  simp [all, Keyed.ofList_entries]

end FurtherFields

theorem Mode.read?_toJson (room : Nat) (m : Mode) :
    Mode.read? (room + 1) m.toJson.toNode = some m := by
  simp [Mode.read?, Mode.toJson, toNode, toNodeFields, fields?, required?, single?, text?]

namespace Collection

def fields (c : Collection) : List (String × Json) :=
  [("id", .string c.id), ("name", .string c.name), ("modes", .array (c.modes.map Mode.toJson)),
    ("defaultModeId", .string c.defaultMode), ("remote", .bool c.remote),
    ("variableIds", .array (c.members.map .string))]

theorem nodup_fields (c : Collection) : (keysOf c.fields).Nodup := show known.Nodup by decide

theorem read?_toJson {c : Collection} (further : FurtherFields (keysOf c.fields) (room + 2) c.extra)
    (exact : c.toJson.Exact) : read? (room + 3) c.toJson.toNode = some c := by
  have distinct := further.nodup c.nodup_fields
  have id : required? text? (room + 2) "id" (fieldNodes (c.fields ++ c.extra.entries)) =
      some c.id := required?_fieldNodes distinct (v := .string c.id) rfl ..
  have name : required? text? (room + 2) "name" (fieldNodes (c.fields ++ c.extra.entries)) =
      some c.name := required?_fieldNodes distinct (v := .string c.name) rfl ..
  have modes : optional? (list? Mode.read?) [] (room + 2) "modes"
      (fieldNodes (c.fields ++ c.extra.entries)) = some c.modes :=
    (optional?_fieldNodes distinct (v := .array (c.modes.map Mode.toJson)) rfl ..).trans
      (list?_toNode fun m _ => m.read?_toJson room)
  have defaultMode : required? text? (room + 2) "defaultModeId"
      (fieldNodes (c.fields ++ c.extra.entries)) = some c.defaultMode :=
    required?_fieldNodes distinct (v := .string c.defaultMode) rfl ..
  have remote : optional? flag? false (room + 2) "remote"
      (fieldNodes (c.fields ++ c.extra.entries)) = some c.remote :=
    optional?_fieldNodes distinct (v := .bool c.remote) rfl ..
  have members : optional? (list? text?) [] (room + 2) "variableIds"
      (fieldNodes (c.fields ++ c.extra.entries)) = some c.members :=
    (optional?_fieldNodes distinct (v := .array (c.members.map .string)) rfl ..).trans
      (list?_toNode fun _ _ => rfl)
  have extra : extra? known (room + 2) (fieldNodes (c.fields ++ c.extra.entries)) = some c.extra :=
    further.read exact
  have opened := fields?_toNode (room + 2) (c.fields ++ c.extra.entries)
  change read? (room + 3) (object (c.fields ++ c.extra.entries)).toNode = some c
  rw [read?, opened]
  simp only [Option.bind_eq_bind, Option.bind_some, id, name, modes, defaultMode, remote, members,
    extra]
  rfl

theorem fits_toJson {c : Collection}
    (further : FurtherFields (keysOf c.fields) (room + 2) c.extra) :
    c.toJson.Fits (room + 3) := by
  have modes : (Json.array (c.modes.map Mode.toJson)).Fits (room + 2) := by
    refine .array fun mode hm => ?_
    obtain ⟨m, -, rfl⟩ := List.mem_map.1 hm
    exact .object (by simp [keysOf]) (by simp; exact ⟨.string _ _, .string _ _⟩)
  have members : (Json.array (c.members.map .string)).Fits (room + 2) := by
    refine .array fun member hm => ?_
    obtain ⟨id, -, rfl⟩ := List.mem_map.1 hm
    exact .string _ _
  refine further.fits_object c.nodup_fields fun field hf => ?_
  simp only [fields, List.mem_cons, List.not_mem_nil, or_false] at hf
  rcases hf with rfl | rfl | rfl | rfl | rfl | rfl
  exacts [.string _ _, .string _ _, modes, .string _ _, .bool _ _, members]

end Collection

namespace Variable

def fields (v : Variable) : List (String × Json) :=
  [("id", .string v.id), ("name", .string v.name), ("variableCollectionId", .string v.collection),
    ("valuesByMode", .object (v.values.entries.map fun entry => (entry.1, valueToJson entry.2))),
    ("remote", .bool v.remote)]

structure Settled (room : Nat) (v : Variable) : Prop where
  values : ∀ entry ∈ v.values.entries, ∀ value, entry.2 = some value → value.Settled room
  further : FurtherFields (keysOf v.fields) (room + 1) v.extra

theorem read?_valueToJson {value? : Option TokenValue}
    (settled : ∀ value, value? = some value → value.Settled room)
    (exact : (valueToJson value?).Exact) :
    nullable? TokenValue.read? room (valueToJson value?).toNode = some value? := by
  cases value? with
  | none => rfl
  | some value =>
    obtain ⟨fits, notNull, again⟩ := settled value rfl
    have read : TokenValue.read? room value.toJson.toNode = some value := by
      rw [TokenValue.read?, fits.ofNode? exact, Option.map_some, again]
    change nullable? TokenValue.read? room value.toJson.toNode = some (some value)
    rw [nullable?, read]
    · rfl
    · exact toNode_ne_null notNull

theorem nodup_fields (v : Variable) : (keysOf v.fields).Nodup := show known.Nodup by decide

theorem read?_toJson {v : Variable} (settled : v.Settled room) (exact : v.toJson.Exact) :
    read? (room + 2) v.toJson.toNode = some v := by
  have distinct := settled.further.nodup v.nodup_fields
  have id : required? text? (room + 1) "id" (fieldNodes (v.fields ++ v.extra.entries)) =
      some v.id := required?_fieldNodes distinct (v := .string v.id) rfl ..
  have name : required? text? (room + 1) "name" (fieldNodes (v.fields ++ v.extra.entries)) =
      some v.name := required?_fieldNodes distinct (v := .string v.name) rfl ..
  have collection : required? text? (room + 1) "variableCollectionId"
      (fieldNodes (v.fields ++ v.extra.entries)) = some v.collection :=
    required?_fieldNodes distinct (v := .string v.collection) rfl ..
  have values : optional? (keyed? (nullable? TokenValue.read?)) .empty (room + 1) "valuesByMode"
      (fieldNodes (v.fields ++ v.extra.entries)) = some v.values := by
    have object : (Json.object (v.values.entries.map fun entry =>
        (entry.1, valueToJson entry.2))).Exact := exact.field ("valuesByMode", _) (by simp)
    refine (optional?_fieldNodes distinct (v := .object _) rfl ..).trans
      (keyed?_toNode fun entry he => read?_valueToJson (settled.values entry he) ?_)
    exact object.field (entry.1, _) (List.mem_map.2 ⟨entry, he, rfl⟩)
  have remote : optional? flag? false (room + 1) "remote"
      (fieldNodes (v.fields ++ v.extra.entries)) = some v.remote :=
    optional?_fieldNodes distinct (v := .bool v.remote) rfl ..
  have extra : extra? known (room + 1) (fieldNodes (v.fields ++ v.extra.entries)) = some v.extra :=
    settled.further.read exact
  have opened := fields?_toNode (room + 1) (v.fields ++ v.extra.entries)
  change read? (room + 2) (object (v.fields ++ v.extra.entries)).toNode = some v
  rw [read?, opened]
  simp only [Option.bind_eq_bind, Option.bind_some, id, name, collection, values, remote, extra]
  rfl

theorem fits_toJson {v : Variable} (settled : v.Settled room) : v.toJson.Fits (room + 2) := by
  have values : (Json.object (v.values.entries.map fun entry =>
      (entry.1, valueToJson entry.2))).Fits (room + 1) := by
    refine fits_keyed fun entry he => ?_
    cases value : entry.2 with
    | none => exact .null room
    | some x => exact (settled.values entry he x value).fits
  refine settled.further.fits_object v.nodup_fields fun field hf => ?_
  simp only [fields, List.mem_cons, List.not_mem_nil, or_false] at hf
  rcases hf with rfl | rfl | rfl | rfl | rfl
  exacts [.string _ _, .string _ _, .string _ _, values, .bool _ _]

end Variable

namespace TokenGraph

structure Settled (room : Nat) (g : TokenGraph) : Prop where
  collections : ∀ entry ∈ g.collections.entries,
    FurtherFields (keysOf entry.2.fields) (room + 1) entry.2.extra
  tokens : ∀ entry ∈ g.tokens.entries, entry.2.Settled room

def fields (g : TokenGraph) : List (String × Json) :=
  [("variableCollections",
      .object (g.collections.entries.map fun entry => (entry.1, entry.2.toJson))),
    ("variables", .object (g.tokens.entries.map fun entry => (entry.1, entry.2.toJson)))]

variable {g : TokenGraph}

theorem nodup_fields (g : TokenGraph) : (keysOf g.fields).Nodup := by simp [keysOf, fields]

theorem read?_toJson (settled : g.Settled (room + 1)) (exact : g.toJson.Exact) :
    read? (room + 5) g.toJson.toNode = some g := by
  have collections : optional? (keyed? Collection.read?) .empty (room + 4) "variableCollections"
      (fieldNodes g.fields) = some g.collections := by
    have object : (Json.object (g.collections.entries.map fun entry =>
        (entry.1, entry.2.toJson))).Exact := exact.field ("variableCollections", _) (by simp)
    refine (optional?_fieldNodes g.nodup_fields (v := .object _) rfl ..).trans
      (keyed?_toNode fun entry he => Collection.read?_toJson (settled.collections entry he) ?_)
    exact object.field (entry.1, _) (List.mem_map.2 ⟨entry, he, rfl⟩)
  have tokens : optional? (keyed? Variable.read?) .empty (room + 4) "variables"
      (fieldNodes g.fields) = some g.tokens := by
    have object : (Json.object (g.tokens.entries.map fun entry =>
        (entry.1, entry.2.toJson))).Exact := exact.field ("variables", _) (by simp)
    refine (optional?_fieldNodes g.nodup_fields (v := .object _) rfl ..).trans
      (keyed?_toNode fun entry he => Variable.read?_toJson (settled.tokens entry he) ?_)
    exact object.field (entry.1, _) (List.mem_map.2 ⟨entry, he, rfl⟩)
  have opened := fields?_toNode (room + 4) g.fields
  change read? (room + 5) (object g.fields).toNode = some g
  rw [read?, opened]
  · simp only [Option.bind_eq_bind, Option.bind_some, collections, tokens]
    rfl
  · simp [toNode]

theorem fits_toJson (settled : g.Settled (room + 1)) : g.toJson.Fits (room + 5) := by
  refine .object g.nodup_fields fun field hf => ?_
  simp only [List.mem_cons, List.not_mem_nil, or_false] at hf
  rcases hf with rfl | rfl
  · exact fits_keyed fun entry he => Collection.fits_toJson (settled.collections entry he)
  · exact fits_keyed fun entry he => Variable.fits_toJson (settled.tokens entry he)

end TokenGraph

end DesignTokens
