import DesignTokens.Proofs.Graph.Codec

namespace DesignTokens

open Json

namespace Json

variable {α : Type} {read : Reader α} {room : Nat} {node : Node}

theorem eq_null_of_ofNode? (h : ofNode? room node = some .null) : node = .null := by
  cases node with
  | null => rfl
  | array items | object fields => cases room <;> simp [ofNode?] at h
  | _ => simp [ofNode?] at h

theorem room_of_fields? {inner : Nat} {fields : List (String × Node)}
    (h : fields? (room + 1) node = some (inner, fields)) : inner = room := by
  cases node with
  | object nodes =>
    simp only [fields?, Option.map_eq_some_iff] at h
    obtain ⟨_, -, ⟨⟩⟩ := h
    rfl
  | _ => cases h

theorem keyed?_entries {m : Keyed α} (h : keyed? read (room + 1) node = some m) :
    ∀ entry ∈ m.entries, ∃ node, read room node = some entry.2 := by
  simp only [keyed?, Option.bind_eq_bind, Option.bind_eq_some_iff] at h
  obtain ⟨⟨inner, fields⟩, opened, entries, all, ⟨⟩⟩ := h
  cases room_of_fields? opened
  intro entry he
  obtain ⟨field, -, found⟩ := exists_of_mapM_eq_some all entry (Keyed.mem_ofList he)
  obtain ⟨x, value, rfl⟩ := Option.map_eq_some_iff.1 found
  exact ⟨field.2, value⟩

theorem optional?_cases {default x : α} {name : String} {fields : List (String × Node)}
    (h : optional? read default room name fields = some x) :
    x = default ∨ ∃ node, read room node = some x := by
  simp only [optional?, Option.bind_eq_bind, Option.bind_eq_some_iff] at h
  obtain ⟨found, -, h⟩ := h
  cases found with
  | none => exact .inl (Option.some.inj h).symm
  | some node => exact .inr ⟨node, h⟩

theorem optionalAt?_cases {default x : α} {i : Nat} {items : List Node}
    (h : optionalAt? read default room i items = some x) :
    x = default ∨ ∃ node, read room node = some x := by
  rw [optionalAt?] at h
  split at h
  · exact .inl (Option.some.inj h).symm
  · exact .inr ⟨_, h⟩

theorem furtherFields_of_extra? {known : List String} {fields : List (String × Node)}
    {extra : Keyed Json} (h : extra? known room fields = some extra) :
    FurtherFields known room extra := by
  simp only [extra?, Option.bind_eq_bind, Option.bind_eq_some_iff] at h
  obtain ⟨entries, all, ⟨⟩⟩ := h
  have origin {entry : String × Json} (he : entry ∈ (Keyed.ofList entries).entries) :
      entry.1 ∉ known ∧ entry.2.Fits room := by
    obtain ⟨field, hf, found⟩ := exists_of_mapM_eq_some all entry (Keyed.mem_ofList he)
    obtain ⟨x, value, rfl⟩ := Option.map_eq_some_iff.1 found
    exact ⟨by simpa using (List.mem_filter.1 hf).2, fits_of_ofNode? field.2 value⟩
  exact ⟨fun _ he => (origin he).1, fun _ he => (origin he).2⟩

end Json

variable {room : Nat} {node : Node}

theorem Collection.further_of_read? {c : Collection} (h : read? (room + 1) node = some c) :
    FurtherFields known room c.extra := by
  simp only [read?, Option.bind_eq_bind, Option.bind_eq_some_iff] at h
  obtain ⟨⟨inner, fields⟩, opened, _, -, _, -, _, -, _, -, _, -, _, -, extra, further, ⟨⟩⟩ := h
  cases room_of_fields? opened
  exact furtherFields_of_extra? further

theorem TokenValue.settled_of_read? {value : TokenValue}
    (h : nullable? read? room node = some (some value)) : value.Settled room := by
  have present : node ≠ .null := by
    rintro rfl
    cases h
  rw [nullable?, Option.map_eq_some_iff] at h
  · obtain ⟨_, found, ⟨⟩⟩ := h
    obtain ⟨v, of, rfl⟩ := Option.map_eq_some_iff.1 found
    refine ofJson_settled (fits_of_ofNode? node of) ?_
    rintro rfl
    exact present (eq_null_of_ofNode? of)
  · exact present

theorem Variable.settled_of_read? {v : Variable} (h : read? (room + 2) node = some v) :
    v.Settled room := by
  simp only [read?, Option.bind_eq_bind, Option.bind_eq_some_iff] at h
  obtain ⟨⟨inner, fields⟩, opened, _, -, _, -, _, -, values, value, _, -, extra, further, ⟨⟩⟩ := h
  cases room_of_fields? opened
  refine ⟨fun entry he x same => ?_, furtherFields_of_extra? further⟩
  rcases optional?_cases value with rfl | ⟨inside, found⟩
  · cases he
  · obtain ⟨node, read⟩ := keyed?_entries found entry he
    exact TokenValue.settled_of_read? (same ▸ read)

namespace TokenGraph

theorem settled_of_read? {g : TokenGraph} (h : read? (room + 4) node = some g) :
    g.Settled room := by
  -- A graph is read from its two fields by name or by place; both come from the same readers.
  have fields : (g.collections = .empty ∨
        ∃ node, keyed? Collection.read? (room + 3) node = some g.collections) ∧
      (g.tokens = .empty ∨ ∃ node, keyed? Variable.read? (room + 3) node = some g.tokens) := by
    unfold read? at h
    split at h
    · simp only [items?, Option.bind_eq_bind, Option.bind_some] at h
      split at h
      · cases h
      · simp only [Option.bind_eq_some_iff] at h
        obtain ⟨collections, cs, tokens, ts, ⟨⟩⟩ := h
        exact ⟨optionalAt?_cases cs, optionalAt?_cases ts⟩
    · simp only [Option.bind_eq_bind, Option.bind_eq_some_iff] at h
      obtain ⟨⟨inner, fields⟩, opened, collections, cs, tokens, ts, ⟨⟩⟩ := h
      cases room_of_fields? opened
      exact ⟨optional?_cases cs, optional?_cases ts⟩
  constructor
  · intro entry he
    rcases fields.1 with empty | ⟨inside, found⟩
    · simp [empty, Keyed.empty] at he
    · obtain ⟨node, read⟩ := keyed?_entries found entry he
      exact Collection.further_of_read? read
  · intro entry he
    rcases fields.2 with empty | ⟨inside, found⟩
    · simp [empty, Keyed.empty] at he
    · obtain ⟨node, read⟩ := keyed?_entries found entry he
      exact Variable.settled_of_read? read

theorem settled_of_parse? {g : TokenGraph} {text : String} (h : parse? text = some g) :
    g.Settled 123 := by
  -- The graph, its variables, a variable and its values take four of the 127 levels.
  simp only [parse?, Option.bind_eq_bind, Option.bind_eq_some_iff] at h
  obtain ⟨node, -, read⟩ := h
  exact settled_of_read? read

/-- A settled graph is read from its text, also with white space behind it. -/
theorem Settled.parse?_pretty_append {g : TokenGraph} (settled : g.Settled 123)
    (exact : g.toJson.Exact) (blank : String) (spaces : ∀ c ∈ blank.toList, isSpace c = true) :
    parse? (g.toJson.pretty ++ blank) = some g := by
  have text : (g.toJson.pretty ++ blank).toList = g.toJson.prettyChars 0 ++ blank.toList := by
    simp [pretty]
  rw [parse?, text, Node.parse?_prettyChars _ spaces]
  exact read?_toJson settled exact

/-- A graph that was read from some text can be handed over: its own text, formatted, is read as the
    same graph, whose text is formatted the same way again; and formatting leaves it as it is. Whole
    numbers always come back from their texts; of the others in it, this is taken as given. -/
theorem parse?_format {g : TokenGraph} {source : String} (read : parse? source = some g)
    (reals : ∀ x finite, Number.real x finite ∈ g.toJson.numbers →
      (Number.real x finite).ReadsBack) :
    ∃ out, Sheet.format .json g.toJson.pretty = .ok out ∧
      (∃ again, parse? out = some again ∧ again = g ∧
        Sheet.format .json again.toJson.pretty = .ok out) ∧
      Sheet.format .json out = .ok out := by
  have settled := settled_of_parse? read
  have fits : g.toJson.Fits maxDepth := fits_toJson settled
  have exact : g.toJson.Exact := by
    intro n hn
    cases n with
    | whole n small => exact Number.readsBack_whole n small
    | real x finite => exact reals x finite hn
  have lineEnd : ∀ c ∈ "\n".toList, isSpace c = true := by simp [isSpace]
  have formatted : Sheet.format .json g.toJson.pretty = .ok (g.toJson.pretty ++ "\n") := by
    simpa using format_pretty fits exact "" (by simp)
  have again := settled.parse?_pretty_append exact "\n" lineEnd
  exact ⟨_, formatted, ⟨g, again, rfl, formatted⟩, format_pretty fits exact "\n" lineEnd⟩

def exported : Json :=
  .object
    [("variables", .object [("v", .object
      [("scopes", .array [.string "ALL", .null]), ("name", .string "Gap"), ("id", .string "v"),
       ("variableCollectionId", .string "c"),
       ("valuesByMode", .object
         [("size", .number (.whole 16 (by decide))), ("none", .null),
          ("other", .object [("id", .string "w"), ("type", .string "VARIABLE_ALIAS")]),
          ("ink", .object [("r", .ofFloat 0.5), ("a", .number (.whole 1 (by decide))),
            ("g", .number (.whole 0 (by decide))), ("b", .ofFloat 0.25)]),
          ("raw", .array [.bool true, .object [("r", .number (.whole 2 (by decide)))]])])])]),
     ("time", .null),
     ("variableCollections", .object [("c", .object
      [("key", .string "k"), ("id", .string "c"), ("defaultModeId", .string "size"),
       ("modes", .array [.array [.string "size", .string "Size"]]), ("name", .string "Bränd")])])]

def gathered : TokenGraph where
  collections := .ofList
    [("c", ⟨"c", "Bränd", [⟨"size", "Size"⟩], "size", false, [], .ofList [("key", .string "k")]⟩)]
  tokens := .ofList
    [("v", ⟨"v", "Gap", "c", .ofList
      [("size", some (.concrete (.number 16))), ("none", none), ("other", some (.aliasOf "w")),
       ("ink", some (.concrete (.color ⟨0.5, 0, 0.25, some 1⟩))),
       ("raw", some (.concrete (.unsupported
         (.array [.bool true, .object [("r", .number (.whole 2 (by decide)))]]))))],
      false, .ofList [("scopes", .array [.string "ALL", .null])]⟩)]

theorem gathered_exchanged :
    parse? exported.pretty = some gathered ∧ gathered.toJson ≠ exported ∧
      (∀ n ∈ gathered.toJson.numbers, n.ReadsBack) ∧
        ∃ out, Sheet.format .json gathered.toJson.pretty = .ok out ∧
          (∃ again, parse? out = some again ∧ again = gathered ∧
            Sheet.format .json again.toJson.pretty = .ok out) ∧
          Sheet.format .json out = .ok out := by
  have read : parse? exported.pretty = some gathered := by
    rw [parse?, pretty, String.toList_ofList]
    decide +kernel
  have exact : ∀ n ∈ gathered.toJson.numbers, n.ReadsBack := by decide +kernel
  exact ⟨read, by decide +kernel, exact, parse?_format read fun x finite => exact (.real x finite)⟩

end TokenGraph

end DesignTokens
