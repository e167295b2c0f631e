import DesignTokens.Graph.Value
import DesignTokens.Proofs.Json.Values
import DesignTokens.Proofs.Number.Finite

namespace DesignTokens

theorem Json.ofFloat_eq {x : Float} (finite : x.isFinite = true) :
    Json.ofFloat x = .number (.real x finite) := by
  simp [ofFloat, Number.ofFloat?, finite]

structure Color.Writable (c : Color) : Prop where
  red : c.red.isFinite = true ∧ TokenValue.isFraction c.red = true
  green : c.green.isFinite = true ∧ TokenValue.isFraction c.green = true
  blue : c.blue.isFinite = true ∧ TokenValue.isFraction c.blue = true
  alpha : ∀ a, c.alpha = some a → a.isFinite = true

namespace TokenValue

variable {room : Nat}

theorem number?_finite {v : Json} {x : Float} (h : number? v = some x) : x.isFinite = true := by
  cases v with
  | number n =>
    cases h
    exact Number.toFloat_finite n
  | _ => cases h

theorem channel?_fraction {name : String} {fields : List (String × Json)} {x : Float}
    (h : channel? name fields = some x) : x.isFinite = true ∧ isFraction x = true := by
  rw [channel?, Option.filter_eq_some_iff, Option.bind_eq_some_iff] at h
  obtain ⟨⟨v, -, number⟩, fraction⟩ := h
  exact ⟨number?_finite number, fraction⟩

theorem color?_writable {fields : List (String × Json)} {c : Color} (h : color? fields = some c) :
    c.Writable := by
  have channels {alpha : Option Float} (h : (do
      return ⟨← channel? "r" fields, ← channel? "g" fields, ← channel? "b" fields, alpha⟩) = some c)
      (finite : ∀ a, alpha = some a → a.isFinite = true) : c.Writable := by
    simp only [Option.bind_eq_bind, Option.bind_eq_some_iff] at h
    obtain ⟨r, red, g, green, b, blue, ⟨⟩⟩ := h
    exact ⟨channel?_fraction red, channel?_fraction green, channel?_fraction blue, finite⟩
  unfold color? at h
  split at h
  · exact channels h (by simp)
  · rename_i v _
    simp only [Option.bind_eq_bind] at h
    rw [Option.bind_eq_some_iff] at h
    obtain ⟨alpha, read, h⟩ := h
    obtain ⟨x, number, rfl⟩ := Option.map_eq_some_iff.1 read
    exact channels h fun a same => Option.some.inj same ▸ number?_finite number

theorem ofJson_color {c : Color} (h : c.Writable) : ofJson c.toJson = .concrete (.color c) := by
  have number {x : Float} (finite : x.isFinite = true) : number? (.ofFloat x) = some x := by
    rw [Json.ofFloat_eq finite]
    rfl
  have channel {x : Float} (h : x.isFinite = true ∧ isFraction x = true) :
      (number? (.ofFloat x)).filter isFraction = some x := by
    rw [number h.1, Option.filter_some_pos h.2]
  obtain ⟨red, green, blue, alpha⟩ := c
  have r : (number? (.ofFloat red)).filter isFraction = some red := channel h.red
  have g : (number? (.ofFloat green)).filter isFraction = some green := channel h.green
  have b : (number? (.ofFloat blue)).filter isFraction = some blue := channel h.blue
  cases alpha with
  | none => simp [Color.toJson, ofJson, aliased?, color?, channel?, lookup?, r, g, b]
  | some a =>
    have opacity := number (h.alpha a rfl)
    simp [Color.toJson, ofJson, aliased?, color?, channel?, lookup?, r, g, b, opacity]

/-- A value that comes back from what it is written as, and is not written as null. -/
structure Settled (room : Nat) (v : TokenValue) : Prop where
  fits : v.toJson.Fits room
  notNull : v.toJson ≠ .null
  again : ofJson v.toJson = v

theorem settled_number {x : Float} (finite : x.isFinite = true) :
    (concrete (.number x)).Settled room := by
  have written : (concrete (.number x)).toJson = .number (.real x finite) := Json.ofFloat_eq finite
  exact ⟨written ▸ .number room _, by rw [written]; simp, by rw [written]; rfl⟩

theorem settled_alias (id : String) : (aliasOf id).Settled (room + 1) where
  fits := .object (by simp [keysOf]) (by simp; exact ⟨.string _ _, .string _ _⟩)
  notNull := by simp [toJson]
  again := by simp [toJson, ofJson, aliased?, lookup?]

theorem settled_color {c : Color} (h : c.Writable) :
    (concrete (.color c)).Settled (room + 1) where
  fits := by
    have channel {x : Float} (finite : x.isFinite = true) : (Json.ofFloat x).Fits room := by
      rw [Json.ofFloat_eq finite]
      exact .number room _
    have r := channel h.red.1
    have g := channel h.green.1
    have b := channel h.blue.1
    change c.toJson.Fits (room + 1)
    rw [Color.toJson]
    cases alpha : c.alpha with
    | none => exact .object (by simp [keysOf]) (by simp [r, g, b])
    | some a => exact .object (by simp [keysOf]) (by simp [r, g, b, channel (h.alpha a alpha)])
  notNull := by simp [toJson, Concrete.toJson, Color.toJson]
  again := ofJson_color h

theorem ofJson_settled {v : Json} (fits : v.Fits room) (notNull : v ≠ .null) :
    (ofJson v).Settled room := by
  cases fits with
  | null => exact absurd rfl notNull
  | bool _ flag => exact ⟨.bool room flag, by simp [ofJson, toJson, Concrete.toJson], rfl⟩
  | string _ text => exact ⟨.string room text, by simp [ofJson, toJson, Concrete.toJson], rfl⟩
  | number _ n => exact settled_number (Number.toFloat_finite n)
  | array all => exact ⟨.array all, by simp [ofJson, toJson, Concrete.toJson], rfl⟩
  | @object room fields distinct all =>
    cases aliased : aliased? fields with
    | some id =>
      have read : ofJson (.object fields) = aliasOf id := by simp [ofJson, aliased]
      rw [read]
      exact settled_alias id
    | none =>
      cases color : color? fields with
      | some c =>
        have read : ofJson (.object fields) = concrete (.color c) := by
          simp [ofJson, aliased, color]
        rw [read]
        exact settled_color (color?_writable color)
      | none =>
        have read : ofJson (.object fields) = concrete (.unsupported (.object fields)) := by
          simp [ofJson, aliased, color]
        rw [read]
        exact ⟨.object distinct all, by simp [toJson, Concrete.toJson], read⟩

end TokenValue

end DesignTokens
