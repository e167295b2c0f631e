import DesignTokens.Proofs.Theme.Edit

namespace DesignTokens

open Declaration (Stem dropDashes normalName)

def behind (stem core : List Char) : List Char := if core = [] then stem else stem ++ '-' :: core

theorem behind_append (front stem core : List Char) :
    behind (front ++ stem) core = front ++ behind stem core := by
  unfold behind
  split <;> simp

theorem behind_of_ne_nil {stem core : List Char} (ne : core ≠ []) :
    behind stem core = stem ++ '-' :: core := if_neg ne

namespace Matcher

variable {text : String} {name rest : List Char}

theorem afterText?_eq (text name : List Char) : afterText? text name =
    if text ≠ [] ∧ text <+: name then some (name.drop text.length) else none := by
  unfold afterText?
  by_cases empty : text = []
  · simp [empty]
  · simp [empty]

theorem selects_literal : (literal text).selects name = true ↔
    text.toList ≠ [] ∧ text.toList <+: name := by
  rw [selects, afterText?_eq]
  split <;> simp_all

theorem strip_literal (ne : text.toList ≠ []) (rest : List Char) :
    (literal text).strip (text.toList ++ rest) = rest := by
  rw [strip, rest?, afterText?_eq, if_pos ⟨ne, List.prefix_append _ _⟩]
  simp

end Matcher

namespace Declaration

variable {s core : List Char} {d : Declaration} {m : Matcher} {stem : String}

theorem inked_of_forall (ink : ∀ c ∈ s, Text.isBlank c = false) : Text.Trimmed s := by
  by_cases empty : s = []
  · exact .inl empty
  · exact .inr ⟨⟨_, List.head?_eq_some_head empty, ink _ (List.head_mem empty)⟩,
      ⟨_, List.getLast?_eq_some_getLast empty, ink _ (List.getLast_mem empty)⟩⟩

theorem normalName_ink (ink : ∀ c ∈ s, Text.isBlank c = false) :
    normalName s = '-' :: '-' :: dropDashes s := by
  have inner : ∀ c ∈ dropDashes s, Text.isBlank c = false :=
    fun c hc => ink c ((List.dropWhile_sublist _).subset hc)
  rw [normalName, (inked_of_forall ink).trim_eq, (inked_of_forall inner).trim_eq]

theorem removeStem_of_shorter (shorter : (m.strip d.name.toList).length < d.name.toList.length) :
    d.removeStem m = d.rename (m.strip d.name.toList) := by
  have other : (m.strip d.name.toList).length ≠ d.name.length := by
    rw [← String.length_toList]
    exact shorter.ne
  rw [removeStem, if_neg other]

theorem addStem_core (h : Stem stem.toList) (name : d.name.toList = '-' :: '-' :: core)
    (noDash : core.head? ≠ some '-') (trimmed : Text.Trimmed core) :
    d.addStem stem.toList = ⟨.ofList (behind stem.toList core), d.value⟩ := by
  rw [addStem, if_neg h.trim_ne_nil, name, dropDashes_core noDash]
  cases core with
  | nil => simp [rename, h.normal.normalName_eq, behind]
  | cons c core =>
    have ends := (trimmed.resolve_left (List.cons_ne_nil c core)).2
    simp [rename, (h.normalName_append _).1, Text.trimEnd_eq_self ends, behind]

theorem replaceStem_of_strip (h : Stem stem.toList)
    (shorter : (m.strip d.name.toList).length < d.name.toList.length)
    (left : normalName (m.strip d.name.toList) = '-' :: '-' :: core)
    (noDash : core.head? ≠ some '-') (trimmed : Text.Trimmed core) :
    d.replaceStem m stem = ⟨.ofList (behind stem.toList core), d.value⟩ := by
  have removed : (d.removeStem m).name.toList = '-' :: '-' :: core := by
    rw [removeStem_of_shorter shorter, rename, String.toList_ofList, left]
  rw [replaceStem, addStem_core h removed noDash trimmed, removeStem_of_shorter shorter]
  rfl

theorem replaceStem_strip {rest : List Char} (h : Stem stem.toList)
    (strip : m.strip d.name.toList = rest) (shorter : rest.length < d.name.toList.length)
    (ink : ∀ c ∈ rest, Text.isBlank c = false) :
    d.replaceStem m stem = ⟨.ofList (behind stem.toList (dropDashes rest)), d.value⟩ := by
  subst strip
  have inner : ∀ c ∈ dropDashes (m.strip d.name.toList), Text.isBlank c = false :=
    fun c hc => ink c ((List.dropWhile_sublist _).subset hc)
  exact replaceStem_of_strip h shorter (normalName_ink ink) (head?_dropDashes _)
    (inked_of_forall inner)

theorem name_replaceStem_strip {rest : List Char} (h : Stem stem.toList)
    (strip : m.strip d.name.toList = rest) (shorter : rest.length < d.name.toList.length)
    (ink : ∀ c ∈ rest, Text.isBlank c = false) :
    (d.replaceStem m stem).name.toList = behind stem.toList (dropDashes rest) := by
  rw [replaceStem_strip h strip shorter ink, String.toList_ofList]

/-- What can stand behind a dash in a name: a text that begins with no dash and has no white space
    at its ends. -/
structure Core (s : List Char) : Prop where
  noDash : s.head? ≠ some '-'
  starts : Text.StartsInked s
  ends : Text.EndsInked s

instance (s : List Char) : Decidable (Core s) :=
  decidable_of_iff (s.head? ≠ some '-' ∧ Text.StartsInked s ∧ Text.EndsInked s)
    ⟨fun ⟨n, s, e⟩ => ⟨n, s, e⟩, fun ⟨n, s, e⟩ => ⟨n, s, e⟩⟩

namespace Core

theorem isStem (h : Core s) : Stem ('-' :: '-' :: s) where
  normal := ⟨s, rfl, h.noDash, .inr ⟨h.starts, h.ends⟩⟩
  named := fun none => h.starts.ne_nil (by simpa using none)

theorem normalName_dashed (h : Core s) : normalName ('-' :: s) = '-' :: '-' :: s := by
  have dash : Text.isBlank '-' = false := by decide
  have whole : Text.trim ('-' :: s) = '-' :: s :=
    Text.trim_eq_self (Text.startsInked_cons dash) (h.ends.append ['-'])
  have noDashes : dropDashes ('-' :: '-' :: s) = s := dropDashes_core h.noDash
  have dropped : dropDashes ('-' :: s) = s := noDashes
  rw [normalName, whole, dropped, Text.trim_eq_self h.starts h.ends]

end Core

theorem replaceStem_behind {old new : String} (ho : Stem old.toList) (hn : Stem new.toList)
    (inner : core = [] ∨ Core core) (name : d.name.toList = behind old.toList core) :
    d.replaceStem (.literal old) new = ⟨.ofList (behind new.toList core), d.value⟩ := by
  have ne : old.toList ≠ [] := by
    obtain ⟨_, dashes, -⟩ := ho.normal
    rw [dashes]
    exact List.cons_ne_nil _ _
  have positive := List.length_pos_iff.2 ne
  rcases inner with rfl | inner
  · have strip : (Matcher.literal old).strip d.name.toList = [] := by
      rw [name, ← List.append_nil (behind old.toList []), behind, if_pos rfl,
        Matcher.strip_literal ne]
    refine replaceStem_of_strip hn ?_ ?_ (by simp) (.inl rfl)
    · rw [strip, name, behind, if_pos rfl]
      exact positive
    · rw [strip]
      rfl
  · have split : d.name.toList = old.toList ++ '-' :: core :=
      name.trans (behind_of_ne_nil inner.starts.ne_nil)
    have strip : (Matcher.literal old).strip d.name.toList = '-' :: core := by
      rw [split, Matcher.strip_literal ne]
    refine replaceStem_of_strip hn ?_ ?_ inner.noDash (.inr ⟨inner.starts, inner.ends⟩)
    · rw [strip, split, List.length_append]
      omega
    · rw [strip, inner.normalName_dashed]

theorem replaceStem_replaceStem {old new : String} (ho : Stem old.toList) (hn : Stem new.toList)
    (inner : core = [] ∨ Core core) (name : d.name.toList = behind old.toList core) :
    (d.replaceStem (.literal old) new).replaceStem (.literal new) old = d := by
  rw [replaceStem_behind ho hn inner name, replaceStem_behind hn ho inner String.toList_ofList,
    ← name, String.ofList_toList]

/-- A stem that is a whole name, or stands at the front of one with a dash behind it, can be
    exchanged for any other: nothing else in the name changes, nor does the value, and it can be
    exchanged back. -/
theorem replaceStem_exchanged {p q : String} (hp : Core p.toList) (hq : Core q.toList)
    (d : Declaration) :
    (d.name = "--" ++ p →
      d.replaceStem (.literal ("--" ++ p)) ("--" ++ q) = ⟨"--" ++ q, d.value⟩ ∧
      (d.replaceStem (.literal ("--" ++ p)) ("--" ++ q)).replaceStem
        (.literal ("--" ++ q)) ("--" ++ p) = d) ∧
    ∀ rest : String, Core rest.toList → d.name = "--" ++ p ++ "-" ++ rest →
      d.replaceStem (.literal ("--" ++ p)) ("--" ++ q) = ⟨"--" ++ q ++ "-" ++ rest, d.value⟩ ∧
      (d.replaceStem (.literal ("--" ++ p)) ("--" ++ q)).replaceStem
        (.literal ("--" ++ q)) ("--" ++ p) = d := by
  have old : Stem ("--" ++ p).toList := String.toList_append ▸ hp.isStem
  have new : Stem ("--" ++ q).toList := String.toList_append ▸ hq.isStem
  have alone (s : String) : "--" ++ s = .ofList (behind ("--" ++ s).toList []) := by
    rw [behind, if_pos rfl, String.ofList_toList]
  constructor
  · intro name
    have text : d.name.toList = behind ("--" ++ p).toList [] := by rw [name, behind, if_pos rfl]
    refine ⟨?_, replaceStem_replaceStem old new (.inl rfl) text⟩
    rw [replaceStem_behind old new (.inl rfl) text, ← alone]
  · intro rest inner name
    have joined (s : String) :
        behind ("--" ++ s).toList rest.toList = ("--" ++ s ++ "-" ++ rest).toList := by
      rw [behind_of_ne_nil inner.starts.ne_nil]
      simp
    have text : d.name.toList = behind ("--" ++ p).toList rest.toList := by rw [name, joined]
    refine ⟨?_, replaceStem_replaceStem old new (.inr inner) text⟩
    rw [replaceStem_behind old new (.inr inner) text, joined, String.ofList_toList]

theorem nested_exchanged : Core "a".toList ∧ Core "a-b c".toList ∧ Core "a-b c- -a".toList ∧
    let d : Declaration := ⟨"--a-a-b c- -a", "1"⟩
    d.replaceStem (.literal "--a") "--a-b c" = ⟨"--a-b c-a-b c- -a", "1"⟩ ∧
      (d.replaceStem (.literal "--a") "--a-b c").replaceStem (.literal "--a-b c") "--a" = d := by
  have first : Core "a".toList := by decide
  have second : Core "a-b c".toList := by decide
  have third : Core "a-b c- -a".toList := by decide
  exact ⟨first, second, third, (replaceStem_exchanged first second _).2 "a-b c- -a" third rfl⟩

end Declaration

end DesignTokens
