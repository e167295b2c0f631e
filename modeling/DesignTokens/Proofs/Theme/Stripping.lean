import DesignTokens.Proofs.Pattern.Finding
import DesignTokens.Proofs.Theme.Restemming

namespace DesignTokens

open Text (byteSize)

/-- What is left of a text behind so many bytes. No text is cut within a character or behind its
    end. -/
def Text.dropBytes? (s : String) (n : Nat) : Option String :=
  if valid : String.Pos.Raw.IsValid s ⟨n⟩ then some (s.sliceFrom ⟨⟨n⟩, valid⟩).copy else none

namespace Matcher

mutual

/-- How many bytes match at the front of a name, if there is such a part. -/
def leadingSize? : Matcher → String → Option Nat
  | literal text, name =>
    if text ≠ "" ∧ text.toList <+: name.toList then some text.utf8ByteSize else none
  | pattern _ regex, name => ((regex.find? name.toList).filter (·.1 = 0)).map (·.2)
  | oneOf choices, name => firstSize? choices name

def firstSize? : List Matcher → String → Option Nat
  | [], _ => none
  | m :: ms, name => (m.leadingSize? name).or (firstSize? ms name)

end

def cut? (m : Matcher) (name : String) : Option String :=
  match m.leadingSize? name with
  | some n => Text.dropBytes? name n
  | none => some name

inductive Textual : Matcher → Prop
  | literal (text : String) : Textual (literal text)
  | oneOf {choices : List Matcher} (all : ∀ m ∈ choices, Textual m) : Textual (oneOf choices)

end Matcher

def Declaration.cutStem? (d : Declaration) (m : Matcher) : Option Declaration :=
  (m.cut? d.name).map fun rest =>
    if rest.utf8ByteSize = d.name.utf8ByteSize then d else d.rename rest.toList

variable {m : Matcher} {ms : List Matcher} {name : String} {s rest : List Char} {n : Nat}

namespace Text

theorem isValid_append (front rest : String) :
    String.Pos.Raw.IsValid (front ++ rest) ⟨front.utf8ByteSize⟩ :=
  String.Pos.Raw.isValid_iff_exists_append.2 ⟨front, rest, rfl, rfl⟩

theorem dropBytes?_append (front rest : String) :
    dropBytes? (front ++ rest) front.utf8ByteSize = some rest := by
  have splits : String.Pos.Splits ⟨_, isValid_append front rest⟩ front rest := ⟨rfl, rfl⟩
  rw [dropBytes?, dif_pos (isValid_append front rest), splits.copy_sliceFrom_eq]

theorem eq_of_byteSize {t : List Char} (inside : s <:+ t) (same : byteSize s = byteSize t) :
    s = t := by
  obtain ⟨front, rfl⟩ := inside
  by_cases none : front = []
  · rw [none, List.nil_append]
  · have pos := byteSize_pos none
    rw [byteSize_append] at same
    omega

end Text

namespace Matcher

mutual

theorem leadingSize?_eq (m : Matcher) (name : String) : m.leadingSize? name =
    (m.rest? name.toList).map (byteSize name.toList - byteSize ·) := by
  cases m with
  | literal text =>
    simp only [leadingSize?, rest?, afterText?_eq, ne_eq, String.toList_eq_nil_iff]
    split
    · next h =>
      obtain ⟨-, rest, whole⟩ := h
      simp [← whole, Text.byteSize_toList]
    · rfl
  | pattern source regex => exact regex.leading?_eq_find? name.toList
  | oneOf choices => exact firstSize?_eq choices name

theorem firstSize?_eq (ms : List Matcher) (name : String) : firstSize? ms name =
    (firstRest? ms name.toList).map (byteSize name.toList - byteSize ·) := by
  cases ms with
  | nil => rfl
  | cons m ms =>
    rw [firstSize?, leadingSize?_eq m name, firstSize?_eq ms name, firstRest?]
    cases m.rest? name.toList <;> rfl

end

mutual

theorem selects_of_rest? (m : Matcher) (h : m.rest? s = some rest) : m.selects s = true := by
  cases m with
  | literal text =>
    rw [rest?] at h
    rw [selects, h]
    rfl
  | pattern source regex => exact Regex.isMatch_of_leading? h
  | oneOf choices => exact anySelects_of_firstRest? choices h

theorem anySelects_of_firstRest? (ms : List Matcher) (h : firstRest? ms s = some rest) :
    anySelects ms s = true := by
  cases ms with
  | nil => cases h
  | cons m ms =>
    rw [anySelects, Bool.or_eq_true]
    rw [firstRest?] at h
    split at h
    · next found => exact .inl (selects_of_rest? m (h ▸ found))
    · exact .inr (anySelects_of_firstRest? ms h)

end

theorem selects_of_leadingSize? (h : m.leadingSize? name = some n) :
    m.selects name.toList = true := by
  rw [leadingSize?_eq] at h
  obtain ⟨rest, found, -⟩ := Option.map_eq_some_iff.1 h
  exact m.selects_of_rest? found

theorem append_strip (h : m.leadingSize? name = some n) :
    ∃ front : String, front ++ .ofList (m.strip name.toList) = name ∧ front.utf8ByteSize = n := by
  rw [leadingSize?_eq] at h
  obtain ⟨rest, found, rfl⟩ := Option.map_eq_some_iff.1 h
  obtain ⟨front, whole⟩ := m.rest?_suffix found
  have left : m.strip name.toList = rest := by rw [strip, found, Option.getD_some]
  refine ⟨.ofList front, ?_, ?_⟩
  · rw [left, ← String.ofList_append, whole, String.ofList_toList]
  · rw [← whole, Text.byteSize_append, Nat.add_sub_cancel, Text.byteSize_ofList]

theorem strip_of_leadingSize?_eq_none (h : m.leadingSize? name = none) :
    m.strip name.toList = name.toList := by
  rw [leadingSize?_eq, Option.map_eq_none_iff] at h
  rw [strip, h, Option.getD_none]

theorem cut?_eq (m : Matcher) (name : String) :
    m.cut? name = some (.ofList (m.strip name.toList)) := by
  rw [cut?]
  cases found : m.leadingSize? name with
  | none => simp [strip_of_leadingSize?_eq_none found]
  | some n =>
    obtain ⟨front, whole, rfl⟩ := append_strip found
    have cut := Text.dropBytes?_append front (.ofList (m.strip name.toList))
    rwa [whole] at cut

theorem strip_eq_self_iff :
    m.strip name.toList = name.toList ↔ (m.leadingSize? name).getD 0 = 0 := by
  cases found : m.leadingSize? name with
  | none => simp [strip_of_leadingSize?_eq_none found]
  | some n =>
    obtain ⟨front, whole, rfl⟩ := append_strip found
    have letters := congrArg String.toList whole
    rw [String.toList_append, String.toList_ofList] at letters
    generalize m.strip name.toList = rest at letters
    rw [← letters, Option.getD_some, String.utf8ByteSize_eq_zero_iff, ← String.toList_eq_nil_iff]
    simp

theorem anySelects_eq_any (ms : List Matcher) (s : List Char) :
    anySelects ms s = ms.any (·.selects s) := by
  induction ms with
  | nil => rfl
  | cons m ms ih => rw [anySelects, ih, List.any_cons]

theorem firstSize?_eq_findSome? (ms : List Matcher) (name : String) :
    firstSize? ms name = ms.findSome? (·.leadingSize? name) := by
  induction ms with
  | nil => rfl
  | cons m ms ih =>
    rw [firstSize?, ih, List.findSome?_cons]
    cases m.leadingSize? name <;> rfl

theorem Textual.exists_size (h : m.Textual) (selected : m.selects name.toList = true) :
    ∃ n, 0 < n ∧ m.leadingSize? name = some n := by
  induction h with
  | literal text =>
    obtain ⟨ne, begins⟩ := selects_literal.1 selected
    have nonempty : text ≠ "" := mt String.toList_eq_nil_iff.2 ne
    have pos : 0 < text.utf8ByteSize :=
      Nat.pos_of_ne_zero (mt String.utf8ByteSize_eq_zero_iff.1 nonempty)
    exact ⟨text.utf8ByteSize, pos, if_pos ⟨nonempty, begins⟩⟩
  | @oneOf choices all ih =>
    rw [selects, anySelects_eq_any, List.any_eq_true] at selected
    obtain ⟨m, hm, selected⟩ := selected
    obtain ⟨n, -, size⟩ := ih m hm selected
    -- The choice that is decisive may be another one, which selects the name as well.
    have found : (choices.findSome? (·.leadingSize? name)).isSome = true :=
      List.findSome?_isSome_iff.2 ⟨m, hm, by rw [size, Option.isSome_some]⟩
    obtain ⟨first, decisive⟩ := Option.isSome_iff_exists.1 found
    obtain ⟨m', hm', size'⟩ := List.exists_of_findSome?_eq_some decisive
    obtain ⟨n', pos, same⟩ := ih m' hm' (selects_of_leadingSize? size')
    obtain rfl : first = n' := Option.some.inj (size'.symm.trans same)
    exact ⟨first, pos, (firstSize?_eq_findSome? choices name).trans decisive⟩

end Matcher

namespace Declaration

theorem removeStem_eq (d : Declaration) (m : Matcher) : d.removeStem m =
    if m.strip d.name.toList = d.name.toList then d else d.rename (m.strip d.name.toList) := by
  have same : (m.strip d.name.toList).length = d.name.length ↔
      m.strip d.name.toList = d.name.toList := by
    rw [← String.length_toList]
    exact ⟨(m.strip_suffix _).eq_of_length, congrArg List.length⟩
  simp only [removeStem, same]

theorem cutStem?_eq (d : Declaration) (m : Matcher) : d.cutStem? m = some (d.removeStem m) := by
  have same : byteSize (m.strip d.name.toList) = byteSize d.name.toList ↔
      m.strip d.name.toList = d.name.toList :=
    ⟨Text.eq_of_byteSize (m.strip_suffix _), congrArg byteSize⟩
  rw [cutStem?, Matcher.cut?_eq, removeStem_eq]
  simp only [Option.map_some, ← Text.byteSize_toList, String.toList_ofList, same]

end Declaration

/-- Where something matches at the front of a name, the matcher selects the name, and the part that
    matches ends within the name and between two characters. So a name can always be cut behind it,
    which leaves the end of the name; a declaration is named anew by that only if some bytes were
    cut off. A matcher without patterns selects just the names that lose some. -/
theorem Matcher.selects_and_strips (m : Matcher) (name : String) :
    (∀ n, m.leadingSize? name = some n → m.selects name.toList = true ∧
      n ≤ name.utf8ByteSize ∧ String.Pos.Raw.IsValid name ⟨n⟩) ∧
    (m.cut? name = some (.ofList (m.strip name.toList)) ∧ m.strip name.toList <:+ name.toList) ∧
    (∀ value, (⟨name, value⟩ : Declaration).cutStem? m =
        some ((⟨name, value⟩ : Declaration).removeStem m) ∧
      (⟨name, value⟩ : Declaration).removeStem m =
        if 0 < (m.leadingSize? name).getD 0
          then ⟨.ofList (Declaration.normalName (m.strip name.toList)), value⟩
          else ⟨name, value⟩) ∧
    (m.Textual → (m.selects name.toList = true ↔ ∃ n, 0 < n ∧ m.leadingSize? name = some n)) := by
  refine ⟨fun n found => ?_, ⟨m.cut?_eq name, m.strip_suffix _⟩, fun value => ⟨?_, ?_⟩, fun h => ?_⟩
  · have selected := selects_of_leadingSize? found
    obtain ⟨front, whole, rfl⟩ := append_strip found
    have valid := Text.isValid_append front (.ofList (m.strip name.toList))
    rw [whole] at valid
    exact ⟨selected, valid.le_utf8ByteSize, valid⟩
  · exact Declaration.cutStem?_eq _ m
  · simp only [Declaration.removeStem_eq, strip_eq_self_iff, Declaration.rename, Nat.pos_iff_ne_zero,
      ite_not]
  · refine ⟨h.exists_size, ?_⟩
    rintro ⟨n, -, found⟩
    exact selects_of_leadingSize? found

def Matcher.nested : Matcher :=
  .oneOf [.literal "", .oneOf [], .oneOf [.oneOf [.literal "--größ"], .literal "--"]]

theorem Matcher.nested_strips : let name := "--größe-klein"
    nested.leadingSize? name = some 8 ∧ nested.selects name.toList = true ∧
      8 ≤ name.utf8ByteSize ∧ String.Pos.Raw.IsValid name ⟨8⟩ ∧ ¬String.Pos.Raw.IsValid name ⟨7⟩ ∧
      nested.cut? name = some "e-klein" ∧
      (⟨name, "4"⟩ : Declaration).cutStem? nested = some ⟨"--e-klein", "4"⟩ ∧
      nested.Textual ∧ nested.selects "-".toList = false ∧ nested.leadingSize? "-" = none := by
  intro name
  have textual : nested.Textual := by
    refine .oneOf ?_
    simp only [List.forall_mem_cons]
    refine ⟨.literal _, .oneOf nofun, .oneOf ?_, nofun⟩
    simp only [List.forall_mem_cons]
    exact ⟨.oneOf fun m hm => List.mem_singleton.1 hm ▸ .literal _, .literal _, nofun⟩
  have size : nested.leadingSize? name = some 8 := by decide +kernel
  have missed : nested.leadingSize? "-" = none := by decide +kernel
  obtain ⟨within, ⟨cut, -⟩, edited, -⟩ := nested.selects_and_strips name
  obtain ⟨selected, inside, valid⟩ := within 8 size
  have passed : nested.selects "-".toList = false := by
    obtain ⟨-, -, -, lost⟩ := nested.selects_and_strips "-"
    refine Bool.eq_false_iff.2 fun selected => ?_
    obtain ⟨n, -, found⟩ := (lost textual).1 selected
    cases missed.symm.trans found
  refine ⟨size, selected, inside, valid, by decide +kernel, cut.trans (by decide +kernel), ?_,
    textual, passed, missed⟩
  exact (edited "4").1.trans (by decide +kernel)

example : let m : Matcher := .pattern "x*" (.repeated (.one (.single 'x')) 0 none true)
    m.selects "--x".toList = true ∧ m.leadingSize? "--x" = some 0 ∧ m.cut? "--x" = some "--x" := by
  decide +kernel

end DesignTokens
