import DesignTokens.Proofs.Generate.Property
import DesignTokens.Proofs.Number.Spelled

namespace DesignTokens

open Text (lower lowerAscii)

namespace Naming

/-- A variable has a name, which does not begin with a digit. -/
def IsVariable (name : List Char) : Prop := ∃ c ∈ name.head?, c.isDigit = false

theorem isNumeric_iff (name : String) : isNumeric name = true ↔
    Text.trim name.toList = [] ∨ Number.Spells (Text.trim name.toList) := by
  rw [isNumeric, Bool.or_eq_true, List.isEmpty_iff, Number.ofText?_isNaN]

theorem flatten_wordsFrom (word s : List Char) :
    (wordsFrom word s).flatten = word ++ s.filter isWordPart := by
  fun_induction wordsFrom word s with
  | case1 => rfl
  | case2 word ne => simp
  | case3 word c s part ih => rw [ih, List.filter_cons_of_pos part, List.append_assoc]; rfl
  | case4 c s part ih => rw [ih, List.filter_cons_of_neg part]
  | case5 word c s part ne ih => rw [List.flatten_cons, ih, List.filter_cons_of_neg part]; rfl

theorem head?_camel (name : String) :
    (camel name).toList.head? = (name.toList.find? Char.isAlphanum).map lowerAscii := by
  have all : (words name).flatten = name.toList.filter isWordPart := flatten_wordsFrom [] _
  change _ = (name.toList.find? isWordPart).map lowerAscii
  rw [← List.head?_filter, ← all, camel, String.toList_ofList]
  split
  · next none => rw [none]; rfl
  · next first rest found =>
    have ne : first ≠ [] := (wordsFrom_alphanum (by simp) (found ▸ List.mem_cons_self)).1
    obtain ⟨c, first, rfl⟩ := List.exists_cons_of_ne_nil ne
    rw [found]
    rfl

theorem isDigit_lowerAscii {c : Char} (h : c.isAlphanum = true) :
    (lowerAscii c).isDigit = !c.isAlpha :=
  Text.forall_isAlphanum (p := fun c => (lowerAscii c).isDigit = !c.isAlpha) (by decide) c h

theorem isVariable_camel (name : String) : IsVariable (camel name).toList ↔
    ∃ c ∈ name.toList.find? Char.isAlphanum, c.isAlpha = true := by
  rw [IsVariable, head?_camel]
  constructor
  · rintro ⟨d, hd, noDigit⟩
    obtain ⟨c, found, rfl⟩ := Option.map_eq_some_iff.1 hd
    rw [isDigit_lowerAscii (List.find?_some found)] at noDigit
    exact ⟨c, found, by simpa using noDigit⟩
  · rintro ⟨c, found, letter⟩
    refine ⟨lowerAscii c, Option.map_eq_some_iff.2 ⟨c, found, rfl⟩, ?_⟩
    rw [isDigit_lowerAscii (List.find?_some found), letter]
    rfl

end Naming

namespace Generator

/-- What a line declares: the text between its first character and a colon. -/
def declared (line : String) : List Char := (line.toList.drop 1).takeWhile (· ≠ ':')

section

variable {directory : Path} {marked : Bool} {buffer : List String} {place : Place} {token : String}
  {value : Concrete} {line : String}

theorem declaration_scss_eq_some
    (h : (mk (.scss directory marked) buffer).declaration place token value = .ok (some line)) :
    ∃ rest, line.toList = '$' :: (Naming.camel token).toList ++ ':' :: rest := by
  simp only [declaration] at h
  split at h
  · cases h
  · split at h
    · cases h
    · next literal _ =>
      cases h
      refine ⟨' ' :: (literal ++ (if marked then " !default" else "") ++ ";").toList, ?_⟩
      have colon : (": " : String).toList = [':', ' '] := rfl
      have sign : ("$" : String).toList = ['$'] := rfl
      simp [String.toList_append, colon, sign]

theorem declared_eq {name rest : List Char} (h : ∀ c ∈ name, c.isAlphanum = true)
    (whole : line.toList = '$' :: name ++ ':' :: rest) : declared line = name := by
  have noColon : ∀ c ∈ name, decide (c ≠ ':') = true := by
    intro c hc
    rw [decide_eq_true_eq]
    rintro rfl
    exact absurd (h ':' hc) (by decide)
  rw [declared, whole, List.cons_append, List.drop_one, List.tail_cons]
  exact (Number.takeWhile_stop noColon (by rintro c ⟨⟩; rfl)).1

end

variable (directory : Path) (marked : Bool) (buffer : List String) (place : Place) (token : String)
  (value : Concrete)

/-- Names that are blank or spell a number are passed over. What is declared for any other is made
    of letters and digits, and can be the name of a variable if and only if the first letter or
    digit of the token's name is a letter. -/
theorem declaration_variable :
    ((mk (.scss directory marked) buffer).declaration place token value = .ok none ↔
      Text.trim token.toList = [] ∨ Number.Spells (Text.trim token.toList)) ∧
    ((∃ line, (mk (.scss directory marked) buffer).declaration place token value =
        .ok (some line)) ↔
      ¬(Text.trim token.toList = [] ∨ Number.Spells (Text.trim token.toList)) ∧
        value.literal? .scss ≠ none) ∧
    ∀ line, (mk (.scss directory marked) buffer).declaration place token value = .ok (some line) →
      (∃ rest, line.toList = '$' :: declared line ++ ':' :: rest) ∧
      (∀ c ∈ declared line, c.isAlphanum = true) ∧
      (Naming.IsVariable (declared line) ↔
        ∃ c ∈ token.toList.find? Char.isAlphanum, c.isAlpha = true) := by
  rw [← Naming.isNumeric_iff]
  refine ⟨?_, ?_, fun line written => ?_⟩
  · simp only [declaration]
    split
    · next numeric => simp [numeric]
    · next named => split <;> simp [named]
  · simp only [declaration]
    split
    · next numeric => simp [numeric]
    · split <;> simp [*]
  · obtain ⟨rest, whole⟩ := declaration_scss_eq_some written
    have name := declared_eq (Naming.camel_alphanum token) whole
    rw [name]
    exact ⟨⟨rest, whole⟩, Naming.camel_alphanum token, Naming.isVariable_camel token⟩

def brand : Place := ⟨⟨"c", "Brand", [⟨"m", "Light"⟩], "m", false, [], .empty⟩, ⟨"m", "Light"⟩⟩

theorem shade_declared :
    (mk (.scss ⟨"scss"⟩ true) []).declaration brand "*Shade/500" (.boolean true) =
        .ok (some "$shade500: true !default;") ∧
      Naming.IsVariable (declared "$shade500: true !default;") := by
  have written : (mk (.scss ⟨"scss"⟩ true) []).declaration brand "*Shade/500" (.boolean true) =
      .ok (some "$shade500: true !default;") := by decide +kernel
  obtain ⟨-, -, named⟩ :=
    declaration_variable ⟨"scss"⟩ true [] brand "*Shade/500" (.boolean true)
  exact ⟨written, (named _ written).2.2.2 ⟨'S', by decide +kernel, rfl⟩⟩

/-- Neither a name of marks alone nor a number with a word behind it is passed over. -/
theorem marks_declared :
    (mk (.scss ⟨"scss"⟩ false) []).declaration brand "###" (.boolean true) =
        .ok (some "$: true;") ∧ ¬Naming.IsVariable (declared "$: true;") ∧
      (mk (.scss ⟨"scss"⟩ false) []).declaration brand "100/tint" (.boolean true) =
        .ok (some "$100Tint: true;") ∧ ¬Naming.IsVariable (declared "$100Tint: true;") := by
  have empty : declared "$: true;" = [] := by decide +kernel
  have digit : declared "$100Tint: true;" = "100Tint".toList := by decide +kernel
  refine ⟨by decide +kernel, ?_, by decide +kernel, ?_⟩
  · rintro ⟨c, hc, -⟩
    rw [empty] at hc
    cases hc
  · rintro ⟨c, hc, noDigit⟩
    rw [digit] at hc
    cases hc
    cases noDigit

end Generator

end DesignTokens
