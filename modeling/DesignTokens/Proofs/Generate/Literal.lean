import DesignTokens.Literal
import DesignTokens.Proofs.Sheet.Spelling

namespace DesignTokens

open Sheet (Spelling)
open Text (Plain)

def Concrete.Tame (value : Concrete) : Prop :=
  ∀ text, value = .text text → ∀ c ∈ text.toList, c ≠ '\'' ∧ c ≠ '\\' ∧ c ≠ ':'

instance : (value : Concrete) → Decidable value.Tame
  | .text s =>
    decidable_of_iff ((s.toList.all fun c => c ≠ '\'' ∧ c ≠ '\\' ∧ c ≠ ':') = true) <| by
      simp only [List.all_eq_true, decide_eq_true_eq]
      exact ⟨fun tame _ same => Concrete.text.inj same ▸ tame, fun tame => tame s rfl⟩
  | .number _ | .boolean _ | .color _ | .unsupported _ => isTrue nofun

namespace Literal

theorem channel_plain (x : Float) : Plain (channel x) := Number.plain_plain _

theorem cssColor_worded (c : Color) : Sheet.Worded false (cssColor c) true := by
  have further (x : Float) : Sheet.Worded true (' ' :: channel x) true :=
    .further (channel_plain x) (Number.plain_ne_nil _)
  have first : Sheet.Worded false ("rgb(".toList ++ channel c.red) true :=
    .word (.append (by decide) (channel_plain _)) (by simp)
  have stop : Sheet.Worded true [')'] true := .word (by decide) (by simp)
  have channels := (first.append (further c.green)).append (further c.blue)
  unfold cssColor
  cases c.alpha with
  | none => simpa using channels.append stop
  | some alpha =>
    have slash : Sheet.Worded true [' ', '/'] true := .further (s := ['/']) (by decide) (by simp)
    have opacity : Sheet.Worded true (' ' :: Number.plain alpha) true :=
      .further (Number.plain_plain _) (Number.plain_ne_nil _)
    simpa using ((channels.append slash).append opacity).append stop

theorem spelling_css (value : Concrete) (tame : value.Tame) :
    ∃ tokens, Spelling ((value.literal? .css).getD "").toList tokens := by
  cases value with
  | text s =>
    have spelled := Spelling.quoted (tame s rfl)
    exact ⟨_, by simpa [Concrete.literal?, chars?, quoteMark] using spelled⟩
  | number x => simpa [Concrete.literal?, chars?] using Spelling.plain (Number.literal_plain x)
  | boolean b =>
    cases b
    · exact Spelling.plain (s := "false".toList) (by decide)
    · exact Spelling.plain (s := "true".toList) (by decide)
  | color c =>
    have spelled := Spelling.words (cssColor_worded c)
    exact ⟨_, by simpa [Concrete.literal?, chars?] using spelled⟩
  | unsupported raw => exact ⟨[], .nil⟩

end Literal

end DesignTokens
