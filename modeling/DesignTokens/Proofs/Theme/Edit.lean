import DesignTokens.Proofs.Theme.Matcher
import DesignTokens.Proofs.Theme.Name
import Mathlib.Data.List.Infix

namespace DesignTokens

open Text (StartsInked EndsInked Trimmed isBlank trim trimStart trimEnd)

namespace Declaration

/-- Behind a dash, white space is not followed by another dash. -/
def Smooth (s : List Char) : Prop :=
  ∀ rest, '-' :: rest <:+ s → (trimStart rest).head? = some '-' → rest.head? = some '-'

def SingleEnd (s : List Char) : Prop :=
  ∀ front blanks, trimEnd s = front ++ ';' :: (blanks ++ [';']) → ∃ c ∈ blanks, isBlank c = false

instance (s : List Char) : Decidable (Smooth s) :=
  decidable_of_iff (∀ t ∈ s.tails, t.head? = some '-' →
      (trimStart t.tail).head? = some '-' → t.tail.head? = some '-') <| by
    simp only [List.mem_tails]
    constructor
    · exact fun h rest dash => h _ dash rfl
    · intro h t end' dash
      obtain ⟨rest, rfl⟩ := List.head?_eq_some_iff.1 dash
      exact h rest end'

structure Clean (d : Declaration) : Prop where
  name : ∃ core, d.name.toList = '-' :: '-' :: core ∧ Trimmed core
  value : Trimmed d.value.toList

/-- Besides, the name has two dashes at its front and no more, and the value ends in no
    semicolon. -/
structure NormalForm (d : Declaration) : Prop where
  name : Normal d.name.toList
  value : Trimmed d.value.toList
  noEnd : d.value.toList.getLast? ≠ some ';'

instance (d : Declaration) : Decidable d.NormalForm :=
  decidable_of_iff (Normal d.name.toList ∧ Trimmed d.value.toList ∧
    d.value.toList.getLast? ≠ some ';') ⟨fun ⟨n, v, e⟩ => ⟨n, v, e⟩, fun ⟨n, v, e⟩ => ⟨n, v, e⟩⟩

inductive Origin where
  | parts (name value : List Char)
  | text (s : List Char)

def Origin.declaration : Origin → Except ThemeError Declaration
  | parts name value => .ok (make name value)
  | text s => parse s

inductive Edit where
  | setValue (value : List Char)
  | pointTo (name : List Char)
  | rename (name : List Char)
  | addStem (stem : List Char)
  | removeStem (m : Matcher)
  | replaceStem (m : Matcher) (stem : String)

def edit (d : Declaration) : Edit → Declaration
  | .setValue value => d.setValue value
  | .pointTo name => d.pointTo name
  | .rename name => d.rename name
  | .addStem stem => d.addStem stem
  | .removeStem m => d.removeStem m
  | .replaceStem m stem => d.replaceStem m stem

def Origin.Smooth : Origin → Prop
  | parts name value => Declaration.Smooth name ∧ SingleEnd value
  | text s => Declaration.Smooth s ∧ SingleEnd s

def Edit.Smooth : Edit → Prop
  | setValue value => SingleEnd value
  | rename name => Declaration.Smooth name
  | addStem stem => Declaration.Smooth (stem ++ ['-'])
  | replaceStem _ stem => Declaration.Smooth (stem.toList ++ ['-'])
  | pointTo _ | removeStem _ => True

variable {s t : List Char} {d : Declaration}

namespace Smooth

theorem suffix (h : Smooth s) (end' : t <:+ s) : Smooth t :=
  fun rest dash => h rest (dash.trans end')

theorem initial (h : Smooth s) (front : t <+: s) : Smooth t := by
  obtain ⟨u, rfl⟩ := front
  intro rest dash again
  have begins : (trimStart (rest ++ u)).head? = some '-' := by
    have ne : trimStart rest ≠ [] := List.ne_nil_of_mem (List.mem_of_head? again)
    rw [Text.trimStart_append ne, List.head?_append_of_ne_nil _ ne, again]
  have ne : rest ≠ [] := by
    rintro rfl
    cases again
  rw [← List.head?_append_of_ne_nil rest ne]
  refine h _ ?_ begins
  obtain ⟨before, rfl⟩ := dash
  exact ⟨before, by simp⟩

theorem inner (h : Smooth s) (inside : t <:+: s) : Smooth t := by
  obtain ⟨u, front, end'⟩ := List.infix_iff_prefix_suffix.1 inside
  exact (h.suffix end').initial front

theorem dash (h : Smooth s) (noGap : (trimStart s).head? = some '-' → s.head? = some '-') :
    Smooth ('-' :: s) := by
  intro rest dash
  rcases List.suffix_cons_iff.1 dash with same | inside
  · cases same
    exact noGap
  · exact h rest inside

theorem append (hs : Smooth (s ++ ['-'])) (ht : Smooth ('-' :: t)) : Smooth (s ++ '-' :: t) := by
  intro rest dash again
  rcases List.suffix_or_suffix_of_suffix dash (List.suffix_append s ('-' :: t)) with late | early
  · exact ht rest late again
  rcases List.suffix_cons_iff.1 early with same | ⟨u, rfl⟩
  · exact ht rest (same ▸ List.suffix_rfl) again
  -- The dash lies in the first text, and what follows it is decided before the dash that joins.
  have inside : '-' :: (u ++ ['-']) <:+ s ++ ['-'] := by
    obtain ⟨before, split⟩ := dash
    refine ⟨before, ?_⟩
    have joined : before ++ '-' :: u ++ '-' :: t = s ++ '-' :: t := by simpa using split
    rw [← List.append_cancel_right joined]
    simp
  have ne : trimStart (u ++ ['-']) ≠ [] := by
    rw [Ne, trimStart, List.dropWhile_eq_nil_iff]
    intro all
    exact absurd (all '-' (by simp)) (by decide)
  have first : (trimStart (u ++ ['-'])).head? = some '-' := by
    rw [← List.singleton_append, ← List.append_assoc, Text.trimStart_append ne,
      List.head?_append_of_ne_nil _ ne] at again
    exact again
  have begins := hs _ inside first
  rw [← List.singleton_append, ← List.append_assoc, List.head?_append_of_ne_nil _ (by simp)]
  exact begins

end Smooth

theorem dash_dropDashes_suffix (s : List Char) : '-' :: dropDashes s <:+ '-' :: s := by
  induction s with
  | nil => exact List.suffix_rfl
  | cons c s ih =>
    by_cases dash : c = '-'
    · subst dash
      exact ih.trans (List.suffix_cons '-' _)
    · have still : dropDashes (c :: s) = c :: s := by simp [dropDashes, dash]
      rw [still]

theorem head?_dropDashes (s : List Char) : (dropDashes s).head? ≠ some '-' := by
  intro dash
  have stopped := List.head?_dropWhile_not (· = '-') s
  rw [dropDashes] at dash
  simp [dash] at stopped

theorem Smooth.head?_trim_dropDashes (h : Smooth s) :
    (trim (dropDashes (trim s))).head? ≠ some '-' := by
  intro dash
  have begins : (trimStart (dropDashes (trim s))).head? = some '-' := by
    have front : trim (dropDashes (trim s)) <+: trimStart (dropDashes (trim s)) :=
      Text.trimEnd_isPrefix _
    obtain ⟨rest, whole⟩ := front
    have ne : trim (dropDashes (trim s)) ≠ [] := List.ne_nil_of_mem (List.mem_of_head? dash)
    rw [← whole, List.head?_append_of_ne_nil _ ne, dash]
  have smooth : Smooth (trim s) := h.inner (Text.trim_infix s)
  have trimmed : Trimmed (trim s) := Text.trim_trimmed s
  cases text : trim s with
  | nil =>
    rw [text] at begins
    cases begins
  | cons c rest =>
    rw [text] at begins smooth trimmed
    by_cases first : c = '-'
    · subst first
      have more : dropDashes ('-' :: rest) = dropDashes rest := rfl
      rw [more] at begins
      exact head?_dropDashes rest (smooth _ (dash_dropDashes_suffix rest) begins)
    · have still : dropDashes (c :: rest) = c :: rest := by simp [dropDashes, first]
      have ink : StartsInked (c :: rest) := (trimmed.resolve_left (List.cons_ne_nil c rest)).1
      rw [still, Text.trimStart_eq_self ink] at begins
      exact first (Option.some.inj begins)

theorem Smooth.normalName (h : Smooth s) : Normal (normalName s) ∧ Smooth (normalName s) := by
  have trimmed : Trimmed (trim (dropDashes (trim s))) := Text.trim_trimmed _
  have noDash := h.head?_trim_dropDashes
  have smooth : Smooth (trim (dropDashes (trim s))) := by
    apply h.inner
    exact ((Text.trim_infix _).trans (List.dropWhile_suffix _).isInfix).trans (Text.trim_infix s)
  refine ⟨⟨_, rfl, noDash, trimmed⟩, (smooth.dash ?_).dash fun _ => rfl⟩
  rcases trimmed with empty | ⟨starts, -⟩
  · rw [empty]
    exact id
  · rw [Text.trimStart_eq_self starts]
    exact id

theorem SingleEnd.suffix (h : SingleEnd s) (end' : t <:+ s) : SingleEnd t := by
  intro front blanks ends
  obtain ⟨before, rfl⟩ := end'
  refine h (before ++ front) blanks ?_
  rw [Text.trimEnd_append before (by simp [ends]), ends, List.append_assoc]

theorem singleEnd_of_count (h : s.count ';' ≤ 1) : SingleEnd s := by
  intro front blanks ends
  have fewer := (Text.trimEnd_isPrefix s).sublist.count_le ';'
  rw [ends] at fewer
  simp only [List.count_append, List.count_cons_self, List.count_nil] at fewer
  omega

theorem SingleEnd.normalValue (h : SingleEnd s) : (normalValue s).getLast? ≠ some ';' := by
  rw [Declaration.normalValue, dropSemicolon]
  split
  · next ends =>
    obtain ⟨front, whole⟩ := List.getLast?_eq_some_iff.1 ends
    rw [whole, List.dropLast_concat]
    intro again
    obtain ⟨value, before⟩ := List.getLast?_eq_some_iff.1 again
    obtain ⟨start, split⟩ := Text.trimStart_suffix front
    obtain ⟨blanks, rest, blank⟩ := Text.exists_trimEnd_append (trimStart front)
    -- The semicolon that was dropped stands behind the one that is left and white space.
    have double : trimEnd (trimStart s) = (start ++ value) ++ ';' :: (blanks ++ [';']) := by
      change trimEnd (trimStart front) = value ++ [';'] at before
      change trim s = _
      rw [whole, ← split, rest, before]
      simp
    obtain ⟨c, hc, ink⟩ := h.suffix (Text.trimStart_suffix s) _ _ double
    exact absurd (blank c hc) (by simp [ink])
  · next noEnd =>
    rw [(Text.trim_trimmed s).trim_eq]
    exact noEnd

theorem trimmed_normalValue (s : List Char) : Trimmed (normalValue s) := Text.trim_trimmed _

theorem toList_pointTo (d : Declaration) (name : List Char) :
    (d.pointTo name).value.toList = 'v' :: ("ar(".toList ++ normalName name) ++ [')'] := by
  simp [pointTo]

theorem trimmed_pointTo (d : Declaration) (name : List Char) :
    Trimmed (d.pointTo name).value.toList := by
  rw [toList_pointTo]
  exact .inr ⟨Text.startsInked_cons (by decide), Text.endsInked_concat _ (by decide)⟩

theorem addStem_cases (d : Declaration) (stem : List Char) :
    d.addStem stem = d ∨ d.addStem stem = d.rename stem ∨
      d.addStem stem = d.rename (stem ++ '-' :: dropDashes d.name.toList) := by
  unfold addStem
  split
  · exact .inl rfl
  · split
    · exact .inr (.inl rfl)
    · exact .inr (.inr rfl)

theorem removeStem_cases (d : Declaration) (m : Matcher) :
    d.removeStem m = d ∨ d.removeStem m = d.rename (m.strip d.name.toList) := by
  unfold removeStem
  dsimp only
  split
  · exact .inl rfl
  · exact .inr rfl

theorem clean_make (name value : List Char) : (make name value).Clean where
  name := ⟨_, String.toList_ofList, Text.trim_trimmed _⟩
  value := by
    rw [make, String.toList_ofList]
    exact trimmed_normalValue value

namespace Clean

theorem rename (h : d.Clean) (name : List Char) : (d.rename name).Clean :=
  ⟨(clean_make name []).name, h.value⟩

theorem addStem (h : d.Clean) (stem : List Char) : (d.addStem stem).Clean := by
  rcases d.addStem_cases stem with same | other | other
  · rwa [same]
  · rw [other]
    exact h.rename _
  · rw [other]
    exact h.rename _

theorem removeStem (h : d.Clean) (m : Matcher) : (d.removeStem m).Clean := by
  rcases d.removeStem_cases m with same | other
  · rwa [same]
  · rw [other]
    exact h.rename _

theorem edit (h : d.Clean) (e : Edit) : (d.edit e).Clean := by
  cases e with
  | setValue value => exact ⟨h.name, (clean_make [] value).value⟩
  | pointTo name => exact ⟨h.name, d.trimmed_pointTo name⟩
  | rename name => exact h.rename name
  | addStem stem => exact h.addStem stem
  | removeStem m => exact h.removeStem m
  | replaceStem m stem => exact (h.removeStem m).addStem stem.toList

theorem foldl (h : d.Clean) (edits : List Edit) : (edits.foldl Declaration.edit d).Clean := by
  induction edits generalizing d with
  | nil => exact h
  | cons e edits ih => exact ih (h.edit e)

end Clean

structure Even (d : Declaration) : Prop extends NormalForm d where
  smooth : Smooth d.name.toList

namespace Even

theorem rename (h : d.Even) {name : List Char} (smooth : Smooth name) :
    (d.rename name).Even := by
  have text : (d.rename name).name.toList = normalName name := String.toList_ofList
  obtain ⟨normal, again⟩ := smooth.normalName
  exact ⟨⟨text ▸ normal, h.value, h.noEnd⟩, text ▸ again⟩

theorem setValue (h : d.Even) {value : List Char} (single : SingleEnd value) :
    (d.setValue value).Even := by
  have text : (d.setValue value).value.toList = normalValue value := String.toList_ofList
  exact ⟨⟨h.name, text ▸ trimmed_normalValue value, text ▸ single.normalValue⟩, h.smooth⟩

theorem make {name value : List Char} (smooth : Smooth name) (single : SingleEnd value) :
    (Declaration.make name value).Even := by
  have empty : (⟨"--", ""⟩ : Declaration).Even := ⟨by decide, by decide⟩
  exact (empty.rename smooth).setValue single

theorem addStem (h : d.Even) {stem : List Char} (smooth : Smooth (stem ++ ['-'])) :
    (d.addStem stem).Even := by
  rcases d.addStem_cases stem with same | other | other
  · rwa [same]
  · rw [other]
    exact h.rename (smooth.initial (List.prefix_append _ _))
  · obtain ⟨core, name, -⟩ := h.name
    have rest : Smooth ('-' :: dropDashes d.name.toList) := by
      rw [name]
      exact (name ▸ h.smooth).suffix (dash_dropDashes_suffix ('-' :: core))
    rw [other]
    exact h.rename (smooth.append rest)

theorem removeStem (h : d.Even) (m : Matcher) : (d.removeStem m).Even := by
  rcases d.removeStem_cases m with same | other
  · rwa [same]
  · rw [other]
    exact h.rename (h.smooth.suffix (m.strip_suffix _))

theorem edit (h : d.Even) {e : Edit} (smooth : e.Smooth) : (d.edit e).Even := by
  cases e with
  | setValue value => exact h.setValue smooth
  | pointTo name =>
    refine ⟨⟨h.name, d.trimmed_pointTo name, ?_⟩, h.smooth⟩
    rw [Declaration.edit, toList_pointTo, List.getLast?_concat]
    decide
  | rename name => exact h.rename smooth
  | addStem stem => exact h.addStem smooth
  | removeStem m => exact h.removeStem m
  | replaceStem m stem => exact (h.removeStem m).addStem smooth

theorem foldl (h : d.Even) {edits : List Edit} (smooth : ∀ e ∈ edits, e.Smooth) :
    (edits.foldl Declaration.edit d).Even := by
  induction edits generalizing d with
  | nil => exact h
  | cons e edits ih =>
    exact ih (h.edit (smooth e (by simp))) fun f hf => smooth f (List.mem_cons_of_mem e hf)

end Even

theorem parse_eq_ok (h : parse s = .ok d) :
    ∃ name value, d = make name value ∧ name <+: s ∧ value <:+ s := by
  rw [parse] at h
  split at h
  · cases h
    exact ⟨_, _, rfl, List.takeWhile_prefix _,
      (List.drop_suffix _ _).trans (List.dropWhile_suffix _)⟩
  · cases h

/-- Whatever is done to a declaration, its name begins with two dashes, and there is no white space
    at the end of the name, behind these dashes, or around the value. It is in normal form if the
    texts that it is made of, and those that come in by editing, are smooth in their dashes and
    single in their semicolons. -/
theorem edited_normal {origin : Origin} (made : origin.declaration = .ok d) (edits : List Edit) :
    (edits.foldl edit d).Clean ∧
      (origin.Smooth → (∀ e ∈ edits, e.Smooth) → (edits.foldl edit d).NormalForm) := by
  obtain ⟨name, value, rfl, smooth⟩ : ∃ name value, d = make name value ∧
      (origin.Smooth → Smooth name ∧ SingleEnd value) := by
    cases origin with
    | parts name value =>
      cases made
      exact ⟨name, value, rfl, id⟩
    | text s =>
      obtain ⟨name, value, same, front, back⟩ := parse_eq_ok made
      exact ⟨name, value, same, fun h => ⟨h.1.initial front, h.2.suffix back⟩⟩
  refine ⟨(clean_make name value).foldl edits, fun start smoothly => ?_⟩
  obtain ⟨smoothName, single⟩ := smooth start
  exact ((Even.make smoothName single).foldl smoothly).toNormalForm

def reworking : List Edit :=
  [.replaceStem (.literal "--brand") " --color", .setValue " 2px ; ".toList,
   .removeStem (.oneOf [.literal "--x", .literal "--color"]), .addStem "text - wide".toList,
   .rename "ring primary".toList, .addStem "--".toList, .pointTo " tone;".toList]

theorem reworking_normal :
    let s := "  ---brand-primary : rgb(0 0 255);  ".toList
    let d : Declaration := ⟨"--brand-primary", "rgb(0 0 255)"⟩
    (Origin.text s).declaration = .ok d ∧ (Origin.text s).Smooth ∧ (∀ e ∈ reworking, e.Smooth) ∧
      reworking.foldl edit d = ⟨"--ring primary", "var(--tone;)"⟩ ∧
      (reworking.foldl edit d).NormalForm := by
  intro s d
  have made : (Origin.text s).declaration = .ok d := by decide +kernel
  have start : (Origin.text s).Smooth := ⟨by decide, singleEnd_of_count (by decide)⟩
  have smoothly : ∀ e ∈ reworking, e.Smooth := by
    simp only [reworking, List.forall_mem_cons, Edit.Smooth]
    exact ⟨by decide, singleEnd_of_count (by decide), trivial, by decide, by decide, by decide,
      trivial, nofun⟩
  exact ⟨made, start, smoothly, by decide +kernel, (edited_normal made reworking).2 start smoothly⟩

/-- Dashes behind dashes and white space are left in a name, and of two semicolons only the last is
    dropped, when a declaration is made and when it is edited. -/
theorem make_not_normal :
    let d := make "- -a".toList "1;;".toList
    d = ⟨"---a", "1;"⟩ ∧ ¬d.NormalForm ∧
      ((make "a".toList "1".toList).rename "- -a".toList).setValue "1;;".toList = d ∧
      -- Stripping a stem lays such dashes bare.
      (make "--a- -b".toList "1".toList).NormalForm ∧
      ¬((make "--a- -b".toList "1".toList).removeStem (.literal "--a")).NormalForm := by
  decide +kernel

end Declaration

end DesignTokens
