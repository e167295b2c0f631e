import DesignTokens.Proofs.Generate.Property
import DesignTokens.Theme.Namespace
import DesignTokens.Theme.Declaration

namespace DesignTokens

open Text (StartsInked EndsInked isBlank trimEnd)

namespace Declaration

/-- Two dashes, and behind them a text with no white space around it that begins with no dash. -/
def Normal (name : List Char) : Prop :=
  ∃ core, name = '-' :: '-' :: core ∧ core.head? ≠ some '-' ∧
    (core = [] ∨ StartsInked core ∧ EndsInked core)

instance (name : List Char) : Decidable (Normal name) :=
  decidable_of_iff (name.take 2 = ['-', '-'] ∧ (name.drop 2).head? ≠ some '-' ∧
      (name.drop 2 = [] ∨ StartsInked (name.drop 2) ∧ EndsInked (name.drop 2))) <| by
    constructor
    · rintro ⟨dashes, ink⟩
      exact ⟨name.drop 2, by rw [← List.take_append_drop 2 name, dashes]; rfl, ink⟩
    · rintro ⟨core, rfl, ink⟩
      exact ⟨rfl, ink⟩

/-- What names can begin with: a normal name that is more than dashes. -/
structure Stem (stem : List Char) : Prop where
  normal : Normal stem
  named : stem ≠ ['-', '-']

instance (stem : List Char) : Decidable (Stem stem) :=
  decidable_of_iff (Normal stem ∧ stem ≠ ['-', '-']) ⟨fun h => ⟨h.1, h.2⟩, fun h => ⟨h.1, h.2⟩⟩

theorem dropDashes_core {core : List Char} (h : core.head? ≠ some '-') :
    dropDashes ('-' :: '-' :: core) = core := by
  cases core with
  | nil => rfl
  | cons c core =>
    have noDash : c ≠ '-' := fun e => h (by simp [e])
    simp [dropDashes, noDash]

theorem Normal.normalName_eq {name : List Char} (h : Normal name) : normalName name = name := by
  obtain ⟨core, rfl, noDash, ink⟩ := h
  rcases ink with rfl | ⟨starts, ends⟩
  · rfl
  · have whole : Text.trim ('-' :: '-' :: core) = '-' :: '-' :: core :=
      Text.trim_eq_self (Text.startsInked_cons (by decide)) (ends.append ['-', '-'])
    rw [normalName, whole, dropDashes_core noDash, Text.trim_eq_self starts ends]

theorem normal_of_dashed {stem : List Char} (h : Dashed stem) : Normal ('-' :: '-' :: stem) := by
  refine ⟨stem, rfl, h.2, ?_⟩
  by_cases empty : stem = []
  · exact .inl empty
  · exact .inr ⟨h.plain.startsInked empty, h.plain.endsInked empty⟩

theorem normalValue_eq_self {value : List Char} (trimmed : Text.Trimmed value)
    (noEnd : value.getLast? ≠ some ';') : normalValue value = value := by
  rw [normalValue, trimmed.trim_eq, dropSemicolon, if_neg noEnd, trimmed.trim_eq]

theorem Stem.normalName_append {stem : List Char} (h : Stem stem) (rest : List Char) :
    normalName (stem ++ '-' :: rest) = stem ++ '-' :: trimEnd rest ∧
      Normal (stem ++ '-' :: trimEnd rest) := by
  obtain ⟨core, rfl, noDash, ink⟩ := h.normal
  have dash : isBlank '-' = false := by decide
  have ne : core ≠ [] := fun empty => h.named (by rw [empty])
  obtain ⟨starts, -⟩ := ink.resolve_left ne
  have begins : (core ++ '-' :: trimEnd rest).head? ≠ some '-' := by
    rwa [List.head?_append_of_ne_nil _ ne]
  have ends : EndsInked ('-' :: trimEnd rest) := by
    rcases Text.trimEnd_eq_nil_or_endsInked rest with empty | ends
    · rw [empty]
      exact Text.endsInked_concat [] dash
    · exact ends.append ['-']
  have trimmed : Text.trim ('-' :: '-' :: core ++ '-' :: rest) =
      '-' :: '-' :: (core ++ '-' :: trimEnd rest) := by
    have starts : StartsInked ('-' :: '-' :: core ++ '-' :: rest) := Text.startsInked_cons dash
    rw [Text.trim, Text.trimStart_eq_self starts, Text.trimEnd_append_cons _ dash]
    rfl
  constructor
  · rw [normalName, trimmed, dropDashes_core begins,
      Text.trim_eq_self (starts.append _) (ends.append core)]
    rfl
  · exact ⟨core ++ '-' :: trimEnd rest, rfl, begins, .inr ⟨starts.append _, ends.append core⟩⟩

theorem Stem.trim_ne_nil {stem : List Char} (h : Stem stem) : Text.trim stem ≠ [] := by
  obtain ⟨core, rfl, -⟩ := h.normal
  have dash : isBlank '-' = false := by decide
  rw [Text.trim, Text.trimStart_eq_self (Text.startsInked_cons dash),
    ← List.nil_append ('-' :: '-' :: core), Text.trimEnd_append_cons [] dash]
  exact List.cons_ne_nil _ _

theorem Stem.name_addStem {stem : List Char} (h : Stem stem) (d : Declaration) :
    Normal (d.addStem stem).name.toList ∧ stem <+: (d.addStem stem).name.toList := by
  rw [addStem, if_neg h.trim_ne_nil]
  cases dropDashes d.name.toList with
  | nil =>
    simp only [rename, String.toList_ofList, h.normal.normalName_eq]
    exact ⟨h.normal, List.prefix_rfl⟩
  | cons c rest =>
    obtain ⟨name, normal⟩ := h.normalName_append (c :: rest)
    simp only [rename, String.toList_ofList, name]
    exact ⟨normal, List.prefix_append _ _⟩

theorem Stem.name_replaceStem {stem : String} (h : Stem stem.toList) (d : Declaration)
    (m : Matcher) : Normal (d.replaceStem m stem).name.toList ∧
      stem.toList <+: (d.replaceStem m stem).name.toList :=
  h.name_addStem (d.removeStem m)

theorem value_pointTo (d : Declaration) {name : String} (h : Normal name.toList) :
    (d.pointTo name.toList).value = "var(" ++ name ++ ")" := by
  rw [pointTo, h.normalName_eq, String.ofList_toList]

end Declaration

theorem Namespace.stem_isStem (n : Namespace) : Declaration.Stem n.stem.toList := by
  cases n <;> decide

end DesignTokens
