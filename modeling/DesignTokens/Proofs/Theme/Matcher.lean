import DesignTokens.Theme.Matcher

namespace DesignTokens

variable {name rest : List Char}

theorem Regex.run_suffix {program : Array Step} {found : Reached} {best : Option (List Char)}
    {s : List Char} (h : run program found best s = some rest) : rest <:+ s ∨ best = some rest := by
  induction s generalizing found best with
  | nil =>
    rw [run] at h
    split at h
    · exact .inl (Option.some.inj h ▸ List.suffix_rfl)
    · exact .inr h
  | cons c s ih =>
    rw [run] at h
    by_cases matched : found.contains program.size
    · -- A match that is left behind is kept as the best so far, and leaves the whole text.
      simp only [matched, if_true] at h
      split at h
      · exact .inl (Option.some.inj h ▸ List.suffix_rfl)
      · rcases ih h with inside | same
        · exact .inl (inside.trans (List.suffix_cons c s))
        · exact .inl (Option.some.inj same ▸ List.suffix_rfl)
    · simp only [matched, Bool.false_eq_true, if_false] at h
      split at h
      · exact .inr h
      · exact (ih h).imp_left (·.trans (List.suffix_cons c s))

theorem Regex.leading?_suffix {r : Regex} (h : r.leading? name = some rest) : rest <:+ name :=
  (run_suffix h).resolve_right nofun

namespace Matcher

theorem afterText?_suffix {text : List Char} (h : afterText? text name = some rest) :
    rest <:+ name := by
  rw [afterText?] at h
  split at h
  · cases h
  · split at h
    · exact Option.some.inj h ▸ List.drop_suffix _ _
    · cases h

mutual

theorem rest?_suffix (m : Matcher) (h : m.rest? name = some rest) : rest <:+ name := by
  cases m with
  | literal text => exact afterText?_suffix h
  | pattern source regex => exact Regex.leading?_suffix h
  | oneOf choices => exact firstRest?_suffix choices h

theorem firstRest?_suffix (choices : List Matcher) (h : firstRest? choices name = some rest) :
    rest <:+ name := by
  cases choices with
  | nil => cases h
  | cons m ms =>
    rw [firstRest?] at h
    split at h
    · next found => exact rest?_suffix m (h ▸ found)
    · exact firstRest?_suffix ms h

end

theorem strip_suffix (m : Matcher) (name : List Char) : m.strip name <:+ name := by
  rw [strip]
  cases found : m.rest? name with
  | none => exact List.suffix_rfl
  | some rest => exact rest?_suffix m found

end Matcher

end DesignTokens
