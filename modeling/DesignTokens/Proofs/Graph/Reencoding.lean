import DesignTokens.Proofs.Graph.Value
import DesignTokens.Proofs.Json.Reading
import DesignTokens.Proofs.Json.Rewriting
import Mathlib.Tactic.NormNum

namespace DesignTokens

open Json DesignTokens.Number

namespace Json

/-- A number as a binary64 number, which has its value if any of those has. -/
structure Number.Rounded (n m : Number) : Prop where
  real : ∃ finite, m = .real n.toFloat finite
  value : m.value = n.value ↔ n.Binary

theorem Number.rounded_toFloat (n : Number) :
    ∃ m, ofFloat n.toFloat = .number m ∧ n.Rounded m :=
  ⟨.real n.toFloat (Number.toFloat_finite n), ofFloat_eq _, ⟨_, rfl⟩, n.value_toFloat⟩

end Json

namespace TokenValue

def IsAlias (fields : List (String × Json)) : Prop :=
  lookup? "type" fields = some (.string aliasType) ∧ ∃ id, lookup? "id" fields = some (.string id)

/-- A colour has channels from 0 to 1, and its opacity is a number, if it has one. -/
def IsColor (fields : List (String × Json)) : Prop :=
  (∀ name ∈ ["r", "g", "b"], ∃ n, lookup? name fields = some (.number n) ∧
    0 ≤ n.toFloat ∧ n.toFloat ≤ 1) ∧
  ∀ v, lookup? "a" fields = some v → ∃ n, v = .number n

def members (names : List String) (fields : List (String × Json)) : List (String × Json) :=
  names.filterMap fun name => (lookup? name fields).map (name, ·)

def Renumbered (field written : String × Json) : Prop :=
  written.1 = field.1 ∧ ∃ n m, field.2 = .number n ∧ written.2 = .number m ∧ n.Rounded m

/-- What a value of a mode is written as. -/
inductive Retold : Json → Json → Prop
  | aliased {fields : List (String × Json)} : IsAlias fields →
      Retold (.object fields) (.object (members ["type", "id"] fields))
  | color {fields channels : List (String × Json)} : ¬IsAlias fields → IsColor fields →
      List.Forall₂ Renumbered (members ["r", "g", "b", "a"] fields) channels →
      Retold (.object fields) (.object channels)
  | number {n m : Number} : n.Rounded m → Retold (.number n) (.number m)
  | same {raw : Json} : (∀ n, raw ≠ .number n) →
      (∀ fields, raw = .object fields → ¬IsAlias fields ∧ ¬IsColor fields) → Retold raw raw

def Rewritten : Change := fun node v => ∃ raw, Verbatim node raw ∧ Retold raw v

section

variable {fields : List (String × Json)} {id : String} {c : Color}

theorem aliased?_eq_some_iff : aliased? fields = some id ↔
    lookup? "type" fields = some (.string aliasType) ∧ lookup? "id" fields = some (.string id) := by
  unfold aliased?
  split
  · rename_i kind other isType isId
    by_cases same : kind = aliasType <;> simp [isType, isId, same]
  · rename_i none
    refine iff_of_false (by simp) ?_
    rintro ⟨isType, isId⟩
    exact none _ _ isType isId

theorem channel?_eq_some_iff {name : String} {x : Float} : channel? name fields = some x ↔
    ∃ n, lookup? name fields = some (.number n) ∧ n.toFloat = x ∧ 0 ≤ x ∧ x ≤ 1 := by
  simp only [channel?, Option.filter_eq_some_iff, Option.bind_eq_some_iff, isFraction,
    Bool.and_eq_true, decide_eq_true_eq]
  constructor
  · rintro ⟨⟨v, found, number⟩, fraction⟩
    cases v with
    | number n =>
      cases number
      exact ⟨n, found, rfl, fraction⟩
    | _ => cases number
  · rintro ⟨n, found, rfl, fraction⟩
    exact ⟨⟨_, found, rfl⟩, fraction⟩

theorem color?_eq_some_iff : color? fields = some c ↔
    channel? "r" fields = some c.red ∧ channel? "g" fields = some c.green ∧
      channel? "b" fields = some c.blue ∧
        (lookup? "a" fields).map number? = c.alpha.map some := by
  have channels (alpha : Option Float) :
      (do return ⟨← channel? "r" fields, ← channel? "g" fields, ← channel? "b" fields, alpha⟩) =
          some c ↔
        channel? "r" fields = some c.red ∧ channel? "g" fields = some c.green ∧
          channel? "b" fields = some c.blue ∧ alpha = c.alpha := by
    simp only [Option.bind_eq_bind, Option.bind_eq_some_iff]
    constructor
    · rintro ⟨r, red, g, green, b, blue, ⟨⟩⟩
      exact ⟨red, green, blue, rfl⟩
    · rintro ⟨red, green, blue, rfl⟩
      exact ⟨_, red, _, green, _, blue, rfl⟩
  unfold color?
  cases lookup? "a" fields with
  | none =>
    refine (channels none).trans (and_congr_right' (and_congr_right' (and_congr_right' ?_)))
    cases c.alpha <;> simp
  | some v =>
    cases number : number? v with
    | none =>
      refine iff_of_false (by simp [number]) ?_
      rintro ⟨-, -, -, alpha⟩
      cases opacity : c.alpha <;> simp [number, opacity] at alpha
    | some a =>
      have read := channels (some a)
      simp only [number, Option.map_some, Option.bind_eq_bind, Option.bind_some] at read ⊢
      refine read.trans (and_congr_right' (and_congr_right' (and_congr_right' ?_)))
      cases c.alpha <;> simp

theorem isColor_of_color? (h : color? fields = some c) : IsColor fields := by
  obtain ⟨red, green, blue, alpha⟩ := color?_eq_some_iff.1 h
  have channel {name : String} {x : Float} (read : channel? name fields = some x) :
      ∃ n, lookup? name fields = some (.number n) ∧ 0 ≤ n.toFloat ∧ n.toFloat ≤ 1 := by
    obtain ⟨n, found, rfl, fraction⟩ := channel?_eq_some_iff.1 read
    exact ⟨n, found, fraction⟩
  refine ⟨?_, fun v found => ?_⟩
  · simp only [List.forall_mem_cons, List.not_mem_nil, false_implies, implies_true, and_true]
    exact ⟨channel red, channel green, channel blue⟩
  · rw [found] at alpha
    cases v with
    | number n => exact ⟨n, rfl⟩
    | _ => cases opacity : c.alpha <;> simp [number?, opacity] at alpha

theorem color?_of_isColor (h : IsColor fields) : ∃ c, color? fields = some c := by
  obtain ⟨channels, opacity⟩ := h
  simp only [List.forall_mem_cons, List.not_mem_nil, false_implies, implies_true, and_true]
    at channels
  obtain ⟨⟨r, red, lowR, highR⟩, ⟨g, green, lowG, highG⟩, b, blue, lowB, highB⟩ := channels
  have alpha : ∃ alpha : Option Float, (lookup? "a" fields).map number? = alpha.map some := by
    cases found : lookup? "a" fields with
    | none => exact ⟨none, rfl⟩
    | some v =>
      obtain ⟨n, rfl⟩ := opacity v found
      exact ⟨some n.toFloat, rfl⟩
  obtain ⟨alpha, same⟩ := alpha
  exact ⟨⟨r.toFloat, g.toFloat, b.toFloat, alpha⟩, color?_eq_some_iff.2
    ⟨channel?_eq_some_iff.2 ⟨r, red, rfl, lowR, highR⟩,
      channel?_eq_some_iff.2 ⟨g, green, rfl, lowG, highG⟩,
      channel?_eq_some_iff.2 ⟨b, blue, rfl, lowB, highB⟩, same⟩⟩

theorem renumbered (name : String) (n : Number) :
    Renumbered (name, .number n) (name, Json.ofFloat n.toFloat) := by
  obtain ⟨m, written, rounded⟩ := n.rounded_toFloat
  exact ⟨rfl, n, m, rfl, written, rounded⟩

theorem color_members (h : color? fields = some c) : ∃ channels, c.toJson = .object channels ∧
    List.Forall₂ Renumbered (members ["r", "g", "b", "a"] fields) channels := by
  obtain ⟨red, green, blue, alpha⟩ := c
  obtain ⟨isR, isG, isB, isA⟩ := color?_eq_some_iff.1 h
  obtain ⟨r, foundR, rfl, -⟩ := channel?_eq_some_iff.1 isR
  obtain ⟨g, foundG, rfl, -⟩ := channel?_eq_some_iff.1 isG
  obtain ⟨b, foundB, rfl, -⟩ := channel?_eq_some_iff.1 isB
  have shown : members ["r", "g", "b", "a"] fields =
      ("r", .number r) :: ("g", .number g) :: ("b", .number b) ::
        ((lookup? "a" fields).map ("a", ·)).toList := by
    simp only [members, List.filterMap_cons, foundR, foundG, foundB]
    cases lookup? "a" fields <;> rfl
  rw [shown]
  refine ⟨_, rfl, .cons (renumbered "r" r) (.cons (renumbered "g" g)
    (.cons (renumbered "b" b) ?_))⟩
  cases found : lookup? "a" fields with
  | none =>
    cases alpha with
    | none => exact .nil
    | some a => simp [found] at isA
  | some v =>
    obtain ⟨n, rfl⟩ := (isColor_of_color? h).2 v found
    cases alpha with
    | none => simp [found] at isA
    | some a =>
      simp only [found, Option.map_some, number?, Option.some.injEq] at isA
      cases isA
      exact .cons (renumbered "a" n) .nil

theorem aliased?_eq_none (h : ¬IsAlias fields) : aliased? fields = none := by
  rw [Option.eq_none_iff_forall_ne_some]
  intro id read
  obtain ⟨kind, isId⟩ := aliased?_eq_some_iff.1 read
  exact h ⟨kind, id, isId⟩

theorem retold_object (fields : List (String × Json)) :
    Retold (.object fields) (ofJson (.object fields)).toJson := by
  -- An alias is looked for first, so an object that is both is written as an alias.
  by_cases standIn : IsAlias fields
  · obtain ⟨kind, id, isId⟩ := standIn
    have read : ofJson (.object fields) = aliasOf id := by
      simp [ofJson, aliased?_eq_some_iff.2 ⟨kind, isId⟩]
    have kept : members ["type", "id"] fields =
        [("type", .string aliasType), ("id", .string id)] := by
      simp [members, kind, isId]
    rw [read, toJson, ← kept]
    exact .aliased ⟨kind, id, isId⟩
  have other := aliased?_eq_none standIn
  cases color : color? fields with
  | some c =>
    obtain ⟨channels, written, each⟩ := color_members color
    have read : (ofJson (.object fields)).toJson = .object channels := by
      simp [ofJson, other, color, toJson, Concrete.toJson, written]
    rw [read]
    exact .color standIn (isColor_of_color? color) each
  | none =>
    have read : (ofJson (.object fields)).toJson = .object fields := by
      simp [ofJson, other, color, toJson, Concrete.toJson]
    have plain : ¬IsColor fields := by
      intro isColor
      obtain ⟨c, found⟩ := color?_of_isColor isColor
      rw [color] at found
      cases found
    rw [read]
    refine .same (by simp) fun others same => ?_
    cases same
    exact ⟨standIn, plain⟩

theorem retold_toJson (raw : Json) : Retold raw (ofJson raw).toJson := by
  cases raw with
  | number n =>
    obtain ⟨m, written, rounded⟩ := n.rounded_toFloat
    have same : (ofJson (.number n)).toJson = .number m := written
    exact same ▸ .number rounded
  | object fields => exact retold_object fields
  | _ => exact .same (by simp) (by simp)

end

theorem nullable?_carries : Carries (nullable? read?) valueToJson Rewritten := by
  intro room node value h
  unfold nullable? at h
  split at h
  -- Null is read as no value, and no value is written as null.
  · cases h
    exact ⟨.null, .null, retold_toJson .null⟩
  · obtain ⟨value, found, rfl⟩ := Option.map_eq_some_iff.1 h
    obtain ⟨raw, of, rfl⟩ := Option.map_eq_some_iff.1 found
    exact ⟨raw, verbatim_of_ofNode? node of, retold_toJson raw⟩

end TokenValue

namespace Mode

def layout : List Field := [⟨"modeId", none, Verbatim⟩, ⟨"name", none, Verbatim⟩]

theorem read?_carries : Carries read? toJson (ClosedRecord layout) := by
  intro room node m h
  unfold read? at h
  split at h
  · simp only [Option.bind_eq_bind, Option.bind_eq_some_iff] at h
    obtain ⟨⟨inner, items⟩, opened, h⟩ := h
    cases node_of_items? opened
    split at h
    · rename_i first second two
      cases two
      simp only [Option.bind_eq_some_iff] at h
      obtain ⟨id, isId, name, isName, ⟨⟩⟩ := h
      refine ⟨_, rfl, .inr ⟨_, rfl, by simp [layout], ?_⟩⟩
      exact .cons ⟨rfl, text?_carries inner first id isId⟩
        (.cons ⟨rfl, text?_carries inner second name isName⟩ .nil)
    · cases h
  · simp only [Option.bind_eq_bind, Option.bind_eq_some_iff] at h
    obtain ⟨⟨inner, fields⟩, opened, id, isId, name, isName, ⟨⟩⟩ := h
    refine ⟨_, rfl, .inl ⟨fields, hasFields_of_fields? opened, ?_⟩⟩
    exact .cons ⟨rfl, Field.fills_required .string text?_carries isId⟩
      (.cons ⟨rfl, Field.fills_required .string text?_carries isName⟩ .nil)

end Mode

namespace Collection

def layout : List Field :=
  [⟨"id", none, Verbatim⟩, ⟨"name", none, Verbatim⟩,
    ⟨"modes", some (.array []), EachItem (ClosedRecord Mode.layout)⟩,
    ⟨"defaultModeId", none, Verbatim⟩, ⟨"remote", some (.bool false), Verbatim⟩,
    ⟨"variableIds", some (.array []), EachItem Verbatim⟩]

theorem read?_carries : Carries read? toJson (OpenRecord layout) := by
  intro room node c h
  simp only [read?, Option.bind_eq_bind, Option.bind_eq_some_iff] at h
  obtain ⟨⟨inner, fields⟩, opened, id, isId, name, isName, modes, areModes, mode, isMode, remote,
    isRemote, members, areMembers, extra, isExtra, ⟨⟩⟩ := h
  refine ⟨fields, _, _, hasFields_of_fields? opened, rfl, ?_, entered_of_extra? isExtra⟩
  have modes := Field.fills_optional (f := ⟨"modes", _, _⟩) (itemsToJson Mode.toJson)
    (list?_carries Mode.read?_carries) rfl areModes
  have members := Field.fills_optional (f := ⟨"variableIds", _, _⟩) (itemsToJson .string)
    (list?_carries text?_carries) rfl areMembers
  exact .cons ⟨rfl, Field.fills_required .string text?_carries isId⟩
    (.cons ⟨rfl, Field.fills_required .string text?_carries isName⟩
      (.cons ⟨rfl, modes⟩
        (.cons ⟨rfl, Field.fills_required .string text?_carries isMode⟩
          (.cons ⟨rfl, Field.fills_optional .bool flag?_carries rfl isRemote⟩
            (.cons ⟨rfl, members⟩ .nil)))))

end Collection

namespace Variable

def layout : List Field :=
  [⟨"id", none, Verbatim⟩, ⟨"name", none, Verbatim⟩, ⟨"variableCollectionId", none, Verbatim⟩,
    ⟨"valuesByMode", some (.object []), EachValue TokenValue.Rewritten⟩,
    ⟨"remote", some (.bool false), Verbatim⟩]

theorem read?_carries : Carries read? toJson (OpenRecord layout) := by
  intro room node v h
  simp only [read?, Option.bind_eq_bind, Option.bind_eq_some_iff] at h
  obtain ⟨⟨inner, fields⟩, opened, id, isId, name, isName, collection, isCollection, values,
    areValues, remote, isRemote, extra, isExtra, ⟨⟩⟩ := h
  refine ⟨fields, _, _, hasFields_of_fields? opened, rfl, ?_, entered_of_extra? isExtra⟩
  have values := Field.fills_optional (f := ⟨"valuesByMode", _, _⟩) (entriesToJson valueToJson)
    (keyed?_carries TokenValue.nullable?_carries) rfl areValues
  exact .cons ⟨rfl, Field.fills_required .string text?_carries isId⟩
    (.cons ⟨rfl, Field.fills_required .string text?_carries isName⟩
      (.cons ⟨rfl, Field.fills_required .string text?_carries isCollection⟩
        (.cons ⟨rfl, values⟩
          (.cons ⟨rfl, Field.fills_optional .bool flag?_carries rfl isRemote⟩ .nil))))

end Variable

namespace TokenGraph

def layout : List Field :=
  [⟨"variableCollections", some (.object []), EachValue (OpenRecord Collection.layout)⟩,
    ⟨"variables", some (.object []), EachValue (OpenRecord Variable.layout)⟩]

theorem read?_carries : Carries read? toJson (ClosedRecord layout) := by
  intro room node g h
  have collections := keyed?_carries Collection.read?_carries
  have tokens := keyed?_carries Variable.read?_carries
  unfold read? at h
  split at h
  · simp only [Option.bind_eq_bind, Option.bind_eq_some_iff] at h
    obtain ⟨⟨inner, items⟩, opened, h⟩ := h
    split at h
    · cases h
    · rename_i few
      simp only [Option.bind_eq_some_iff] at h
      obtain ⟨cs, areCollections, ts, areVariables, ⟨⟩⟩ := h
      have first := Field.fills_optionalAt (f := ⟨"variableCollections", _, _⟩) _ collections rfl
        areCollections
      have second := Field.fills_optionalAt (f := ⟨"variables", _, _⟩) _ tokens rfl areVariables
      refine ⟨_, rfl, .inr ⟨items, node_of_items? opened, Nat.le_of_not_lt few, ?_⟩⟩
      exact .cons ⟨rfl, first⟩ (.cons ⟨rfl, second⟩ .nil)
  · simp only [Option.bind_eq_bind, Option.bind_eq_some_iff] at h
    obtain ⟨⟨inner, fields⟩, opened, cs, areCollections, ts, areVariables, ⟨⟩⟩ := h
    have first := Field.fills_optional (f := ⟨"variableCollections", _, _⟩) _ collections rfl
      areCollections
    have second := Field.fills_optional (f := ⟨"variables", _, _⟩) _ tokens rfl areVariables
    refine ⟨_, rfl, .inl ⟨fields, hasFields_of_fields? opened, ?_⟩⟩
    exact .cons ⟨rfl, first⟩ (.cons ⟨rfl, second⟩ .nil)

/-- Every document that is read as a graph is written again in the layout of a graph, and the text
    that is written is the text of just that tree. -/
theorem parse?_rewritten {text : String} {g : TokenGraph} (read : parse? text = some g) :
    ∃ document, Node.parse? text.toList = some document ∧ ClosedRecord layout document g.toJson ∧
      Node.parse? g.toJson.pretty.toList = some g.toJson.toNode := by
  simp only [parse?, Option.bind_eq_bind, Option.bind_eq_some_iff] at read
  obtain ⟨document, tree, graph⟩ := read
  have again : Node.parse? (g.toJson.prettyChars 0 ++ []) = some g.toJson.toNode :=
    Node.parse?_prettyChars g.toJson (by simp)
  exact ⟨document, tree, read?_carries _ _ _ graph, by simpa [pretty] using again⟩

def relayed : Json :=
  .object
    [("version", .number (.whole 3 (by decide))),
     ("variables", .object
       [("v", .object
          [("id", .string "v"), ("name", .string "Gap"), ("variableCollectionId", .string "c"),
           ("draft", .bool true)]),
        ("w", .object
          [("id", .string "w"), ("name", .string "Ink"), ("variableCollectionId", .string "c"),
           ("valuesByMode", .object [("m", .object
             [("b", .ofFloat 0), ("g", .ofFloat 0.25), ("r", .ofFloat 1),
              ("space", .string "srgb")])])]),
        ("v", .object
          [("scopes", .array [.string "GAP"]), ("name", .string "Gap"), ("id", .string "v"),
           ("variableCollectionId", .string "c"), ("code", .null),
           ("valuesByMode", .object
             [("m", .number (.whole 24 (by decide))), ("n", .null),
              ("m", .object [("id", .string "w"), ("type", .string "VARIABLE_ALIAS"),
                ("rank", .null)])]),
           ("scopes", .array [])])]),
     ("variableCollections", .object [("c", .object
       [("key", .string "k"), ("id", .string "c"), ("defaultModeId", .string "m"),
        ("modes", .array [.array [.string "m", .string "Light"]]), ("name", .string "C")])])]

def delivered : TokenGraph where
  collections := .ofList
    [("c", ⟨"c", "C", [⟨"m", "Light"⟩], "m", false, [], .ofList [("key", .string "k")]⟩)]
  tokens := .ofList
    [("v", ⟨"v", "Gap", "c", .ofList [("m", some (.aliasOf "w")), ("n", none)], false,
      .ofList [("scopes", .array []), ("code", .null)]⟩),
     ("w", ⟨"w", "Ink", "c", .ofList [("m", some (.concrete (.color ⟨1, 0.25, 0, none⟩)))], false,
      .empty⟩)]

theorem relayed_rewritten : parse? relayed.pretty = some delivered ∧
    ∃ document, Node.parse? relayed.pretty.toList = some document ∧
      ClosedRecord layout document delivered.toJson ∧
        Node.parse? delivered.toJson.pretty.toList = some delivered.toJson.toNode := by
  have read : parse? relayed.pretty = some delivered := by
    rw [parse?, pretty, String.toList_ofList]
    decide +kernel
  exact ⟨read, parse?_rewritten read⟩

def inheriting (mode : List (String × Json)) (size ratio : Number) : Json :=
  .object
    [("variableCollections", .object [("c", .object
       [("id", .string "c"), ("name", .string "C"), ("modes", .array [.object mode]),
        ("defaultModeId", .string "m"), ("remote", .bool false),
        ("variableIds", .array [.string "v"])])]),
     ("variables", .object [("v", .object
       [("id", .string "v"), ("name", .string "V"), ("variableCollectionId", .string "c"),
        ("valuesByMode", .object [("m", .number size)]), ("remote", .bool false),
        ("ratio", .number ratio)])])]

/-- A further field of a mode is lost, a number of a mode that takes more than 53 bits is another
    one, and so is a number of a further field that is not read as the nearest. -/
theorem inheriting_reduced :
    (parse? (inheriting [("modeId", .string "m"), ("name", .string "Light"),
      ("parentModeId", .string "p")] (.whole 9007199254740993 (by decide))
        (.real 0.9333333373069763 (by decide))).pretty).map toJson =
        some (inheriting [("modeId", .string "m"), ("name", .string "Light")]
          (.real 9007199254740992 (by decide)) (.real 0.9333333373069764 (by decide))) ∧
      Number.value (.real 9007199254740992 (by decide)) ≠
        Number.value (.whole 9007199254740993 (by decide)) ∧
      Number.value (.real 0.9333333373069764 (by decide)) ≠
        Number.value (.real 0.9333333373069763 (by decide)) := by
  refine ⟨?_, ?_, ?_⟩
  · rw [parse?, pretty, String.toList_ofList]
    decide +kernel
  · have even : Number.parts 9007199254740992 = .finite false ⟨2 ^ 52, 1, true⟩ := by decide
    simp only [Number.value, even, Parts.value, Magnitude.value]
    norm_num
  · have near : Number.parts 0.9333333373069763 =
        .finite false ⟨8406719340216320, -53, false⟩ := by decide +kernel
    have next : Number.parts 0.9333333373069764 =
        .finite false ⟨8406719340216321, -53, false⟩ := by decide +kernel
    simp only [Number.value, near, next, Parts.value, Magnitude.value]
    norm_num

end TokenGraph

end DesignTokens
