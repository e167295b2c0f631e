import DesignTokens.Proofs.Json.Reading
import DesignTokens.Sheet.Format

namespace DesignTokens

section

variable {α : Type} {key : String} {value : α} {entries : List (String × α)}

theorem putEntry_of_not_mem (fresh : key ∉ keysOf entries) :
    putEntry key value entries = entries ++ [(key, value)] := by
  induction entries with
  | nil => rfl
  | cons entry entries ih =>
    simp only [keysOf, List.map_cons, List.mem_cons, not_or] at fresh
    rw [putEntry, if_neg (Ne.symm fresh.1), ih fresh.2]
    rfl

theorem mem_putEntry {entry : String × α} (h : entry ∈ putEntry key value entries) :
    entry = (key, value) ∨ entry ∈ entries := by
  induction entries with
  | nil => exact .inl (List.mem_singleton.1 h)
  | cons first entries ih =>
    rw [putEntry] at h
    split at h
    · exact (List.mem_cons.1 h).imp_right (List.mem_cons_of_mem _)
    · rcases List.mem_cons.1 h with rfl | h
      · exact .inr (by simp)
      · exact (ih h).imp_right (List.mem_cons_of_mem _)

theorem nodup_putEntry (distinct : (keysOf entries).Nodup) :
    (keysOf (putEntry key value entries)).Nodup :=
  (Keyed.put ⟨entries, distinct⟩ key value).distinct

end

namespace Json

/-- With room for `room` levels of arrays and objects, and with each field once. -/
inductive Fits : Nat → Json → Prop where
  | null (room : Nat) : Fits room .null
  | bool (room : Nat) (value : Bool) : Fits room (.bool value)
  | number (room : Nat) (n : Number) : Fits room (.number n)
  | string (room : Nat) (text : String) : Fits room (.string text)
  | array {room : Nat} {items : List Json} : (∀ item ∈ items, Fits room item) →
      Fits (room + 1) (.array items)
  | object {room : Nat} {fields : List (String × Json)} : (keysOf fields).Nodup →
      (∀ field ∈ fields, Fits room field.2) → Fits (room + 1) (.object fields)

def Exact (v : Json) : Prop := ∀ n ∈ v.numbers, n.ReadsBack

variable {room : Nat}

theorem Exact.item {items : List Json} (h : (Json.array items).Exact) :
    ∀ item ∈ items, item.Exact := by
  intro item hi n hn
  refine h n ?_
  rw [numbers, numbersOfItems_eq]
  exact List.mem_flatMap.2 ⟨item, hi, hn⟩

theorem Exact.field {fields : List (String × Json)} (h : (Json.object fields).Exact) :
    ∀ field ∈ fields, field.2.Exact := by
  intro field hf n hn
  refine h n ?_
  rw [numbers, numbersOfFields_eq]
  exact List.mem_flatMap.2 ⟨field, hf, hn⟩

theorem ofItems?_toNodes {items : List Json}
    (read : ∀ item ∈ items, ofNode? room item.toNode = some item) :
    ofItems? room (toNodes items) = some items := by
  induction items with
  | nil => rfl
  | cons item items ih =>
    obtain ⟨first, rest⟩ := List.forall_mem_cons.1 read
    simp [toNodes, ofItems?, first, ih rest]

theorem ofFields?_toNodeFields {fields : List (String × Json)} (entered : List (String × Json))
    (distinct : (keysOf (entered ++ fields)).Nodup)
    (read : ∀ field ∈ fields, ofNode? room field.2.toNode = some field.2) :
    ofFields? room (toNodeFields fields) entered = some (entered ++ fields) := by
  induction fields generalizing entered with
  | nil => simp [toNodeFields, ofFields?]
  | cons field fields ih =>
    obtain ⟨key, value⟩ := field
    obtain ⟨first, rest⟩ := List.forall_mem_cons.1 read
    have fresh : key ∉ keysOf entered := by
      intro known
      simp only [keysOf, List.map_append, List.map_cons] at distinct known
      exact (List.nodup_append.1 distinct).2.2 key known key (by simp) rfl
    have later := ih (entered ++ [(key, value)]) (by simpa using distinct) rest
    rw [List.append_assoc, List.singleton_append] at later
    simp [toNodeFields, ofFields?, first, putEntry_of_not_mem fresh, later]

theorem Fits.ofNode? {v : Json} (fits : v.Fits room) (exact : v.Exact) :
    Json.ofNode? room v.toNode = some v := by
  induction fits with
  | null | bool | string => simp [toNode, Json.ofNode?]
  | number room n =>
    have back : Number.ofNumeral? n.render = some n := exact n (by simp [numbers])
    simp [toNode, Json.ofNode?, back]
  | array _ ih =>
    have items := ofItems?_toNodes fun item hi => ih item hi (exact.item item hi)
    simp [toNode, Json.ofNode?, items]
  | object distinct _ ih =>
    have fields := ofFields?_toNodeFields [] distinct
      fun field hf => ih field hf (exact.field field hf)
    simp [toNode, Json.ofNode?, fields]

mutual

theorem fits_of_ofNode? : {room : Nat} → (node : Node) → {v : Json} →
    ofNode? room node = some v → v.Fits room
  | room, .null, _, read => by
    cases read
    exact .null room
  | room, .bool b, _, read => by
    cases read
    exact .bool room b
  | room, .number numeral, _, read => by
    simp only [ofNode?, Option.map_eq_some_iff] at read
    obtain ⟨n, -, rfl⟩ := read
    exact .number room n
  | room, .string text, _, read => by
    simp only [ofNode?, Option.map_eq_some_iff] at read
    obtain ⟨s, -, rfl⟩ := read
    exact .string room s
  | 0, .array _, _, read | 0, .object _, _, read => by cases read
  | room + 1, .array items, _, read => by
    simp only [ofNode?, Option.map_eq_some_iff] at read
    obtain ⟨values, read, rfl⟩ := read
    exact .array (fits_of_ofItems? items read)
  | room + 1, .object fields, _, read => by
    simp only [ofNode?, Option.map_eq_some_iff] at read
    obtain ⟨values, read, rfl⟩ := read
    obtain ⟨distinct, all⟩ := fits_of_ofFields? fields (by simp [keysOf]) (by simp) read
    exact .object distinct all

theorem fits_of_ofItems? : {room : Nat} → (nodes : List Node) → {items : List Json} →
    ofItems? room nodes = some items → ∀ item ∈ items, item.Fits room
  | _, [], _, read => by
    cases read
    simp
  | room, node :: nodes, _, read => by
    simp only [ofItems?, Option.bind_eq_bind, Option.bind_eq_some_iff] at read
    obtain ⟨item, first, items, rest, ⟨⟩⟩ := read
    exact List.forall_mem_cons.2 ⟨fits_of_ofNode? node first, fits_of_ofItems? nodes rest⟩

theorem fits_of_ofFields? : {room : Nat} → (nodes : List (Option String × Node)) →
    {entered fields : List (String × Json)} → (keysOf entered).Nodup →
      (∀ field ∈ entered, field.2.Fits room) → ofFields? room nodes entered = some fields →
        (keysOf fields).Nodup ∧ ∀ field ∈ fields, field.2.Fits room
  | _, [], _, _, distinct, all, read => by
    cases read
    exact ⟨distinct, all⟩
  | room, (key?, node) :: nodes, entered, _, distinct, all, read => by
    simp only [ofFields?, Option.bind_eq_bind, Option.bind_eq_some_iff] at read
    obtain ⟨key, -, value, first, rest⟩ := read
    refine fits_of_ofFields? nodes (nodup_putEntry distinct) ?_ rest
    intro field hf
    rcases mem_putEntry hf with rfl | hf
    · exact fits_of_ofNode? node first
    · exact all field hf

end

/-- A value comes back from its text, also with white space behind it. -/
theorem parse?_pretty_append {v : Json} (fits : v.Fits maxDepth) (exact : v.Exact) (blank : String)
    (spaces : ∀ c ∈ blank.toList, isSpace c = true) : parse? (v.pretty ++ blank) = some v := by
  have text : (v.pretty ++ blank).toList = v.prettyChars 0 ++ blank.toList := by simp [pretty]
  rw [parse?, text, Node.parse?_prettyChars _ spaces]
  exact fits.ofNode? exact

theorem format_pretty {v : Json} (fits : v.Fits maxDepth) (exact : v.Exact) (blank : String)
    (spaces : ∀ c ∈ blank.toList, isSpace c = true) :
    Sheet.format .json (v.pretty ++ blank) = .ok (v.pretty ++ "\n") := by
  rw [Sheet.format, parse?_pretty_append fits exact blank spaces]

end Json

end DesignTokens
