import DesignTokens.Proofs.Generate.Property
import DesignTokens.Proofs.Sheet.Spelling
import DesignTokens.Proofs.Theme.Name
import DesignTokens.Theme.Declaration

namespace DesignTokens

open Sheet (Row Snug Faithful Spelling Token)
open Text (Plain StartsInked EndsInked isBlank)

namespace Declaration

/-- The name is one of a custom property and the value can stand behind a colon. -/
structure Legible (d : Declaration) : Prop where
  name : ∃ stem, d.name.toList = '-' :: '-' :: stem ∧ Dashed stem
  value : ∃ tokens, Spelling d.value.toList tokens

def statement (d : Declaration) : List Char := d.name.toList ++ ':' :: ' ' :: d.value.toList

def row (d : Declaration) : Row := .statement (Sheet.scan false true d.statement).1

def spelled (d : Declaration) (value : List Token) : List Token :=
  d.name.toList.map .char ++ .char ':' :: .char ' ' :: value

variable {d : Declaration}

namespace Legible

theorem plain_name (h : d.Legible) : Plain d.name.toList := by
  obtain ⟨stem, hs, dashed⟩ := h.name
  rw [hs]
  exact .cons (by decide) (.cons (by decide) dashed.plain)

theorem name_ne_nil (h : d.Legible) : d.name.toList ≠ [] := by
  obtain ⟨stem, hs, -⟩ := h.name
  simp [hs]

theorem spelling_name (h : d.Legible) : Spelling d.name.toList (d.name.toList.map .char) :=
  .words (.word h.plain_name h.name_ne_nil)

variable {tokens : List Token}

theorem whole_spelled (h : d.Legible) (value : Spelling d.value.toList tokens) :
    ∀ t ∈ d.spelled tokens, t.Whole Sheet.protectable := by
  have name := h.spelling_name
  intro t ht
  simp only [spelled, List.mem_append, List.mem_cons] at ht
  rcases ht with ht | rfl | rfl | ht
  · exact name.whole t ht
  · exact rfl
  · exact rfl
  · exact value.whole t ht

theorem no_star_spelled (h : d.Legible) (value : Spelling d.value.toList tokens) :
    .char '*' ∉ d.spelled tokens := by
  simp [spelled, h.spelling_name.noStar, value.noStar]

theorem snug_spelled (h : d.Legible) (value : Spelling d.value.toList tokens) :
    ∃ after, Snug false (d.spelled tokens) after := by
  have name : Snug false (d.name.toList.map .char) true :=
    Sheet.snug_plain h.plain_name h.name_ne_nil
  have colon : (Token.char ':').Solid := ⟨by decide, by decide, by decide, by decide⟩
  rcases value.snug with rfl | snug
  · exact ⟨false, name.append (.solid colon (.space .done))⟩
  · exact ⟨true, name.append (.solid colon (.space snug))⟩

theorem textOf_spelled (value : Spelling d.value.toList tokens) :
    Sheet.textOf (d.spelled tokens) = d.statement := by
  simp [spelled, statement, value.text, Token.text]

theorem row_eq (h : d.Legible) (value : Spelling d.value.toList tokens) :
    d.row = .statement (d.spelled tokens) := by
  have faithful := Faithful.of_no_star (h.whole_spelled value) (h.no_star_spelled value)
  have scanned := (faithful.mono (fun _ _ => rfl)).scan_textOf true
  rw [row, ← textOf_spelled value, scanned]

theorem tidy (h : d.Legible) : d.row.Tidy := by
  obtain ⟨tokens, value⟩ := h.value
  rw [h.row_eq value]
  exact h.snug_spelled value

theorem faithful (h : d.Legible) : Faithful Sheet.protectable d.row.tokens := by
  obtain ⟨tokens, value⟩ := h.value
  rw [h.row_eq value]
  apply Faithful.of_no_star
  · intro t ht
    rcases List.mem_append.1 ht with ht | ht
    · exact h.whole_spelled value t ht
    · rw [List.mem_singleton.1 ht]
      exact rfl
  · simp [Row.tokens, h.no_star_spelled value]

theorem textOf_row (h : d.Legible) : Sheet.textOf d.row.tokens = d.render.toList := by
  obtain ⟨tokens, value⟩ := h.value
  rw [h.row_eq value, Row.tokens, Sheet.textOf_append, textOf_spelled value]
  simp [statement, render, Token.text]

theorem candidate (h : d.Legible) : d.row.candidate? = some d.statement := by
  obtain ⟨tokens, value⟩ := h.value
  obtain ⟨stem, name, -⟩ := h.name
  rw [h.row_eq value, Row.candidate?, textOf_spelled value, statement, name]
  rfl

theorem normalName_name (h : d.Legible) : normalName d.name.toList = d.name.toList := by
  obtain ⟨stem, name, dashed⟩ := h.name
  rw [name]
  exact (normal_of_dashed dashed).normalName_eq

theorem trim_statement (h : d.Legible) : ∃ tail, normalValue tail = d.value.toList ∧
    ':' ∉ tail ∧ Text.trim d.statement = d.name.toList ++ ':' :: tail := by
  obtain ⟨tokens, value⟩ := h.value
  have starts := h.plain_name.startsInked h.name_ne_nil
  rcases value.inked with empty | ⟨valueStarts, valueEnds⟩
  · refine ⟨[], by rw [empty]; rfl, by simp, ?_⟩
    have shape : d.statement = (d.name.toList ++ [':']) ++ [' '] := by simp [statement, empty]
    rw [shape, Text.trim, Text.trimStart_eq_self ((starts.append _).append _),
      Text.trimEnd_concat_blank _ (by decide),
      Text.trimEnd_eq_self (Text.endsInked_concat _ (by decide))]
  · refine ⟨' ' :: d.value.toList, ?_, by simp [value.noColon], ?_⟩
    · have trimmed : Text.trim (' ' :: d.value.toList) = d.value.toList :=
        Text.trim_eq_self valueStarts valueEnds
      rw [normalValue, trimmed, dropSemicolon, if_neg value.noEnd,
        Text.trim_eq_self valueStarts valueEnds]
    · apply Text.trim_eq_self (starts.append _)
      exact (valueEnds.append [':', ' ']).append d.name.toList

theorem parse_statement (h : d.Legible) : parse (Text.trim d.statement) = .ok d := by
  obtain ⟨tail, value, noColon, trimmed⟩ := h.trim_statement
  have nameColon := h.plain_name.not_mem_colon
  have before : ∀ c ∈ d.name.toList, decide (c ≠ ':') = true := by
    intro c hc
    exact decide_eq_true fun e => nameColon (e ▸ hc)
  have count : (d.name.toList ++ ':' :: tail).count ':' = 1 := by
    rw [List.count_append, List.count_cons_self, List.count_eq_zero.2 nameColon,
      List.count_eq_zero.2 noColon]
  rw [trimmed, parse, if_pos count, List.takeWhile_append_of_pos before,
    List.dropWhile_append_of_pos before]
  simp [make, value, h.normalName_name]

end Legible

end Declaration

end DesignTokens
