import DesignTokens.Proofs.Pattern.Language
import DesignTokens.Proofs.Theme.Copying
import DesignTokens.Proofs.Theme.Variants

/-!
Which names of the standard layout go where. Matchers can be kept apart by what the names begin with
that they select: a name begins like at most one of two texts if neither begins like the other. A
pattern may be found anywhere in a name, but what it begins with may not.
-/

namespace DesignTokens

open Declaration (dropDashes)

variable {name s : List Char} {d : Declaration}

theorem Exported.eq_of_suffix (h : Exported name) (behind : s <:+ name)
    (dashes : "--".toList <+: s) : s = name := by
  obtain ⟨core, rfl, spaced, noDash⟩ := h.core
  obtain ⟨rest, rfl⟩ := dashes
  rcases List.suffix_cons_iff.1 behind with whole | behind
  · exact whole
  · exfalso
    rcases List.suffix_cons_iff.1 behind with same | behind
    · cases same
      exact noDash rfl
    · obtain ⟨-, alone⟩ := Spaced.behind_dash (s := []) (spaced.suffix behind)
      exact alone rfl

namespace Matcher

mutual

def openings : Matcher → List (List Char)
  | literal text => [text.toList]
  | pattern _ regex => [Regex.opening regex.factors]
  | oneOf choices => openingsOfAny choices

def openingsOfAny : List Matcher → List (List Char)
  | [] => []
  | m :: ms => m.openings ++ openingsOfAny ms

end

mutual

theorem opening_of_selects (h : Exported name) (m : Matcher)
    (dashed : ∀ o ∈ m.openings, "--".toList <+: o) (selected : m.selects name = true) :
    ∃ o ∈ m.openings, o <+: name := by
  cases m with
  | literal text => exact ⟨_, List.mem_singleton_self _, (selects_literal.1 selected).2⟩
  | pattern source regex =>
    obtain ⟨s, behind, t, matched⟩ := Regex.isMatch_iff.1 selected
    have begins := Regex.opening_prefix ((Regex.matches_factors regex).2 matched)
    have dashes := dashed _ (List.mem_singleton_self _)
    rw [h.eq_of_suffix behind (dashes.trans begins)] at begins
    exact ⟨_, List.mem_singleton_self _, begins⟩
  | oneOf choices => exact opening_of_anySelects h choices dashed selected

theorem opening_of_anySelects (h : Exported name) (ms : List Matcher)
    (dashed : ∀ o ∈ openingsOfAny ms, "--".toList <+: o) (selected : anySelects ms name = true) :
    ∃ o ∈ openingsOfAny ms, o <+: name := by
  cases ms with
  | nil => cases selected
  | cons m ms =>
    obtain ⟨first, others⟩ := List.forall_mem_append.1 dashed
    rcases Bool.or_eq_true_iff.1 selected with selected | selected
    · obtain ⟨o, ho, begins⟩ := opening_of_selects h m first selected
      exact ⟨o, List.mem_append_left _ ho, begins⟩
    · obtain ⟨o, ho, begins⟩ := opening_of_anySelects h ms others selected
      exact ⟨o, List.mem_append_right _ ho, begins⟩

end

def Avoids (m : Matcher) (text : List Char) : Prop :=
  ∀ o ∈ m.openings, "--".toList <+: o ∧ ¬o <+: text ∧ ¬text <+: o

instance (m : Matcher) (text : List Char) : Decidable (m.Avoids text) :=
  inferInstanceAs (Decidable (∀ o ∈ m.openings, _))

theorem Avoids.not_selects {m : Matcher} {text : List Char} (apart : m.Avoids text)
    (h : Exported name) (begins : text <+: name) : ¬m.selects name = true := by
  intro selected
  obtain ⟨o, ho, opens⟩ := opening_of_selects h m (fun o ho => (apart o ho).1) selected
  rcases List.prefix_or_prefix_of_prefix opens begins with inside | inside
  · exact (apart o ho).2.1 inside
  · exact (apart o ho).2.2 inside

end Matcher

namespace Layout

variable {layout : Layout} {ds : List Declaration} {a : Assembly} {mapping : Mapping} {rule : Rule}
  {target : Namespace} {i j : Nat}

theorem assemble_filter {p : Declaration → Bool}
    (dropped : ∀ d ∈ ds, p d = false → layout.ignored.any d.isSelectedBy = true) :
    layout.assemble (ds.filter p) = layout.assemble ds := by
  have kept : (claimAll layout.ignored (ds.filter p)).2 = (claimAll layout.ignored ds).2 := by
    rw [claimAll_left, claimAll_left, List.filter_filter]
    refine List.filter_congr fun d hd => ?_
    cases keep : p d with
    | false => simp [dropped d hd keep]
    | true => rw [Bool.and_true]
  have colors : layout.colors (ds.filter p) = layout.colors ds := by
    rw [Layout.colors, kept, Layout.colors]
  have pool : layout.pool (ds.filter p) = layout.pool ds := by
    rw [Layout.pool, kept, Layout.pool]
  have blocks : layout.blocks (ds.filter p) = layout.blocks ds := by
    rw [Layout.blocks, colors, Layout.blocks]
  have pointers : layout.pointers (ds.filter p) = layout.pointers ds := by
    rw [Layout.pointers, colors, Layout.pointers]
  rw [assemble_eq, assemble_eq, blocks, pool, pointers]

theorem written_of_owner (h : layout.assemble ds = .ok a) (hd : d ∈ ds)
    (owned : owner? layout.claims d = some (.rule i j))
    (there : layout.sections[i]? = some (.mapped mapping)) (place : mapping.rules[j]? = some rule)
    (ht : target ∈ mapping.targets) :
    ∃ made, a.sections[i]? = some made ∧ made.name = mapping.name ∧
      mapping.modify (d.replaceStem rule.strip target.stem) ∈ made.items := by
  obtain ⟨-, -, places, -⟩ := assemble_shares h
  refine ⟨_, places i mapping there, rfl, List.mem_flatMap.2 ⟨(rule, j), ?_, ?_⟩⟩
  · exact List.mem_zipIdx_iff_getElem?.2 place
  · refine List.mem_flatMap.2 ⟨d, List.mem_filter.2 ⟨hd, decide_eq_true owned⟩, ?_⟩
    exact List.mem_map_of_mem ht

theorem not_mem_unbound (h : layout.assemble ds = .ok a) {c : Claimant}
    (owned : owner? layout.claims d = some c) : d ∉ a.unbound := by
  obtain ⟨-, -, -, left⟩ := assemble_shares h
  rw [left, unclaimed, List.mem_filter]
  rintro ⟨-, free⟩
  simp [owned] at free

end Layout

namespace Standard

/-- Names with a stem that one section replaces. -/
structure Family where
  stem : String
  place : Nat
  name : String
  target : Namespace
  deriving DecidableEq

def families : List Family :=
  [⟨"--primitive-color-", 0, "Primitive Colors", .color⟩,
   ⟨"--layout-breakpoint", 1, "Breakpoints", .breakpoint⟩,
   ⟨"--primitive-type-size", 2, "Font Sizes", .text⟩,
   ⟨"--primitive-type-weight", 3, "Font Weights", .fontWeight⟩,
   ⟨"--primitive-type-line-height", 4, "Line Heights", .leading⟩,
   ⟨"--primitive-type-family", 5, "Font Families", .font⟩,
   ⟨"--border-radius", 6, "Border Radii", .radius⟩,
   ⟨"--border-width", 7, "Border Widths", .borderWidth⟩,
   ⟨"--spacing-desktop-space", 9, "Spacing", .spacing⟩]

/-- Stems, and who claims the names that begin with them. -/
def routes : List (String × Claimant) :=
  ("--unit", .ignored 0) :: families.map fun f => (f.stem, .rule f.place 0)

theorem Family.planned {f : Family} (hf : f ∈ families) : ∃ mapping rule,
    layout.sections[f.place]? = some (.mapped mapping) ∧ mapping.name = f.name ∧
      mapping.targets = [f.target] ∧ mapping.rules[0]? = some rule ∧
      (rule.select = .literal f.stem ∨ rule.select = found f.stem) ∧
      rule.strip = .literal f.stem := by
  simp only [families, List.mem_cons, List.not_mem_nil, or_false] at hf
  rcases hf with rfl | rfl | rfl | rfl | rfl | rfl | rfl | rfl | rfl
  · exact ⟨_, _, rfl, rfl, rfl, rfl, .inl rfl, rfl⟩
  · exact ⟨_, _, rfl, rfl, rfl, rfl, .inl rfl, rfl⟩
  · exact ⟨_, _, rfl, rfl, rfl, rfl, .inr rfl, rfl⟩
  · exact ⟨_, _, rfl, rfl, rfl, rfl, .inr rfl, rfl⟩
  · exact ⟨_, _, rfl, rfl, rfl, rfl, .inr rfl, rfl⟩
  · exact ⟨_, _, rfl, rfl, rfl, rfl, .inl rfl, rfl⟩
  · exact ⟨_, _, rfl, rfl, rfl, rfl, .inl rfl, rfl⟩
  · exact ⟨_, _, rfl, rfl, rfl, rfl, .inl rfl, rfl⟩
  · exact ⟨_, _, rfl, rfl, rfl, rfl, .inl rfl, rfl⟩

theorem routes_claimed : ∀ route ∈ routes,
    route.1.toList ≠ [] ∧ route.2 ∈ layout.claims.map Prod.fst := by
  decide +kernel

theorem routes_apart : ∀ route ∈ routes, ∀ claim ∈ layout.claims,
    claim.1 = route.2 ∨ claim.2.Avoids route.1.toList ∨
      claim.1 = .ignored 1 ∧ route.1 = "--spacing-desktop-space" := by
  decide +kernel

theorem exists_of_screenSpacing (selected : screenSpacing.selects name = true) :
    ∃ screen number rest, (∀ c ∈ screen, CharSet.word.contains c = true) ∧
      (number ≠ [] ∧ ∀ c ∈ number, CharSet.digit.contains c = true) ∧
      name = "--spacing-".toList ++ (screen ++ '-' :: (number ++ rest)) := by
  obtain ⟨s, -, rest, matched⟩ := Regex.isMatch_iff.1 selected
  obtain ⟨u, front, last⟩ := (Regex.matches_all_append _).1 matched
  obtain ⟨v, start, middle⟩ := (Regex.matches_all_append _).1 front
  obtain ⟨_, ⟨rfl, rfl⟩, spacing⟩ := Regex.matches_all_cons.1 start
  obtain ⟨w, word, dash⟩ := Regex.matches_all_cons.1 middle
  obtain ⟨screen, -, letters, rfl⟩ := (Regex.matches_plus_one _).1 word
  obtain ⟨number, numbered, digits, rfl⟩ := (Regex.matches_plus_one _).1 last
  obtain rfl := (Regex.matches_chars "-").1 dash
  exact ⟨screen, number, rest, letters, ⟨numbered, digits⟩, (Regex.matches_chars _).1 spacing⟩

theorem eq_of_append_dash {u v x y : List Char} (hu : '-' ∉ u) (hv : '-' ∉ v)
    (same : u ++ '-' :: x = v ++ '-' :: y) : x = y := by
  rcases List.append_eq_append_iff.1 same with ⟨w, rfl, rest⟩ | ⟨w, rfl, rest⟩
  · cases w with
    | nil => exact (List.cons.inj rest).2
    | cons c w =>
      cases rest
      simp at hv
  · cases w with
    | nil => exact (List.cons.inj rest).2.symm
    | cons c w =>
      cases rest
      simp at hu

theorem screenSpacing_spares (rest : List Char) :
    screenSpacing.selects ("--spacing-desktop-space".toList ++ rest) = false := by
  by_contra selected
  obtain ⟨screen, number, t, letters, ⟨numbered, digits⟩, same⟩ :=
    exists_of_screenSpacing (eq_true_of_ne_false selected)
  have split : "--spacing-desktop-space".toList ++ rest =
      "--spacing-".toList ++ ("desktop".toList ++ '-' :: ('s' :: "pace".toList ++ rest)) := by
    rfl
  rw [split] at same
  have noDash : '-' ∉ screen := fun dash => absurd (letters '-' dash) (by decide)
  have behind := eq_of_append_dash (by decide) noDash (List.append_cancel_left same)
  obtain ⟨c, number, rfl⟩ := List.exists_cons_of_ne_nil numbered
  obtain ⟨rfl, -⟩ := List.cons.inj behind
  exact absurd (digits 's' (by simp)) (by decide)

variable {ds : List Declaration} {a : Assembly} {f : Family} {stem : String} {owner : Claimant}
  {claim : Claimant × Matcher} {rest : List Char}

theorem selects_found {text : String} (begins : text.toList <+: name) :
    (found text).selects name = true := by
  obtain ⟨rest, rfl⟩ := begins
  exact Regex.isMatch_iff.2 ⟨_, List.suffix_rfl, rest, (Regex.matches_chars text).2 rfl⟩

theorem selects_of_owner (hr : (stem, owner) ∈ routes) (hc : claim ∈ layout.claims)
    (own : claim.1 = owner) (begins : stem.toList <+: name) : claim.2.selects name = true := by
  have ne : stem.toList ≠ [] := (routes_claimed _ hr).1
  obtain ⟨c, m⟩ := claim
  rcases List.mem_cons.1 hr with unit | family
  · cases unit
    cases own
    cases Layout.mem_claims_ignored hc
    exact Matcher.selects_literal.2 ⟨ne, begins⟩
  · obtain ⟨f, hf, same⟩ := List.mem_map.1 family
    cases same
    cases own
    obtain ⟨mapping, rule, there, -, -, place, select, -⟩ := Family.planned hf
    obtain rfl := Layout.eq_select_of_mem_claims hc there place
    rcases select with literal | pattern
    · exact literal ▸ Matcher.selects_literal.2 ⟨ne, begins⟩
    · exact pattern ▸ selects_found begins

/-- An exported name that begins with a stem is selected by one claimant and by no other. -/
theorem selects_iff_owner (hr : (stem, owner) ∈ routes) (h : Exported name)
    (begins : stem.toList <+: name) (hc : claim ∈ layout.claims) :
    claim.2.selects name = true ↔ claim.1 = owner := by
  constructor
  · intro selected
    rcases routes_apart _ hr _ hc with own | apart | ⟨ignored, desktop⟩
    · exact own
    · exact absurd selected (apart.not_selects h begins)
    · obtain ⟨c, m⟩ := claim
      cases ignored
      cases desktop
      cases Layout.mem_claims_ignored hc
      obtain ⟨rest, rfl⟩ := begins
      rw [screenSpacing_spares] at selected
      cases selected
  · exact fun own => selects_of_owner hr hc own begins

theorem owner_of_route (hr : (stem, owner) ∈ routes) (h : Exported d.name.toList)
    (begins : stem.toList <+: d.name.toList) : owner? layout.claims d = some owner :=
  owner?_of_selects_iff (routes_claimed _ hr).2 fun _ hc => selects_iff_owner hr h begins hc

theorem Family.written (hf : f ∈ families) (h : layout.assemble ds = .ok a) (hd : d ∈ ds)
    (exported : Exported d.name.toList) (name : d.name.toList = f.stem.toList ++ rest) :
    ∃ mapping made, layout.sections[f.place]? = some (.mapped mapping) ∧
      mapping.targets = [f.target] ∧ a.sections[f.place]? = some made ∧ made.name = f.name ∧
      ⟨.ofList (behind f.target.stem.toList (dropDashes rest)), (mapping.modify d).value⟩ ∈
        made.items := by
  have hr : (f.stem, .rule f.place 0) ∈ routes :=
    List.mem_cons_of_mem _ (List.mem_map_of_mem hf)
  have owned := owner_of_route hr exported (name ▸ List.prefix_append _ rest)
  obtain ⟨mapping, rule, there, named, targets, place, -, strip⟩ := Family.planned hf
  have target : f.target ∈ mapping.targets := by simp [targets]
  obtain ⟨made, stands, called, item⟩ :=
    Layout.written_of_owner h hd owned there place target
  have ne : f.stem.toList ≠ [] := (routes_claimed _ hr).1
  have left : rule.strip.strip d.name.toList = rest := by
    rw [strip, name, Matcher.strip_literal ne]
  have shorter : rest.length < d.name.toList.length := by
    have positive := List.length_pos_iff.2 ne
    rw [name, List.length_append]
    omega
  have ink : ∀ c ∈ rest, Text.isBlank c = false :=
    fun c hc => exported.not_blank c (name ▸ List.mem_append_right _ hc)
  rw [Declaration.replaceStem_strip f.target.stem_isStem left shorter ink,
    mapping.modify_mk] at item
  exact ⟨mapping, made, there, targets, stands, called.trans named, item⟩

/-- Each family of names goes to a place of its own. Units are claimed by nothing but the matcher
    that ignores them, and they might as well not be there. The names of a section's family are
    claimed by nothing but its first rule, and the section has them in its namespace. No spacing of
    the desktop is taken for that of one kind of screen. -/
theorem families_routed (h : layout.assemble ds = .ok a) (hd : d ∈ ds)
    (exported : Exported d.name.toList) :
    ("--unit".toList <+: d.name.toList →
      (∀ claim ∈ layout.claims, d.isSelectedBy claim.2 = true ↔ claim.1 = .ignored 0) ∧
        d ∉ a.unbound ∧ layout.assemble (ds.filter (· ≠ d)) = .ok a) ∧
    (∀ f ∈ families, ∀ rest, d.name.toList = f.stem.toList ++ rest →
      (∀ claim ∈ layout.claims, d.isSelectedBy claim.2 = true ↔ claim.1 = .rule f.place 0) ∧
        d ∉ a.unbound ∧
        ∃ mapping made, layout.sections[f.place]? = some (.mapped mapping) ∧
          mapping.targets = [f.target] ∧ a.sections[f.place]? = some made ∧ made.name = f.name ∧
          ⟨.ofList (behind f.target.stem.toList (dropDashes rest)), (mapping.modify d).value⟩ ∈
            made.items) ∧
    ∀ rest, screenSpacing.selects ("--spacing-desktop-space".toList ++ rest) = false := by
  refine ⟨fun unit => ?_, fun f hf rest name => ?_, screenSpacing_spares⟩
  · have hr : ("--unit", .ignored 0) ∈ routes := List.mem_cons_self
    refine ⟨fun claim hc => selects_iff_owner hr exported unit hc,
      Layout.not_mem_unbound h (owner_of_route hr exported unit), ?_⟩
    rw [Layout.assemble_filter, h]
    intro e he same
    obtain rfl : e = d := by simpa using same
    refine List.any_eq_true.2 ⟨_, List.mem_cons_self, ?_⟩
    exact Matcher.selects_literal.2 ⟨(routes_claimed _ hr).1, unit⟩
  · have hr : (f.stem, .rule f.place 0) ∈ routes :=
      List.mem_cons_of_mem _ (List.mem_map_of_mem hf)
    have begins : f.stem.toList <+: d.name.toList := name ▸ List.prefix_append _ rest
    exact ⟨fun claim hc => selects_iff_owner hr exported begins hc,
      Layout.not_mem_unbound h (owner_of_route hr exported begins),
      Family.written hf h hd exported name⟩

def scales : List Declaration :=
  [⟨"--spacing-desktop-space-4", "16"⟩, ⟨"--spacing-desktop-4", "16"⟩, ⟨"--unit-4", "4"⟩,
   ⟨"--primitive-type-size-lg", "24"⟩, ⟨"--semantic-type-body-a-size", "14"⟩]

theorem scales_routed : (∀ d ∈ scales, Exported d.name.toList) ∧
    ∃ a, layout.assemble scales = .ok a ∧
      layout.assemble (scales.filter (· ≠ ⟨"--unit-4", "4"⟩)) = .ok a ∧
      (∀ claim ∈ layout.claims,
        claim.2.selects "--primitive-type-size-lg".toList = true ↔ claim.1 = .rule 2 0) ∧
      ∃ made, a.sections[9]? = some made ∧ made.name = "Spacing" ∧
        ⟨"--spacing-4", "16px"⟩ ∈ made.items := by
  have exported : ∀ d ∈ scales, Exported d.name.toList := by decide +kernel
  have laidOut : (layout.assemble scales).map Assembly.unbound = .ok [] := by decide +kernel
  obtain ⟨a, h, -⟩ := Layout.exists_of_map_eq_ok laidOut
  have routed {d : Declaration} (hd : d ∈ scales) := families_routed h hd (exported d hd)
  obtain ⟨-, -, dropped⟩ := (routed (d := ⟨"--unit-4", "4"⟩) (by decide)).1 (by decide)
  obtain ⟨size, -⟩ := (routed (d := ⟨"--primitive-type-size-lg", "24"⟩) (by decide)).2.1
    ⟨"--primitive-type-size", 2, "Font Sizes", .text⟩ (by decide) "-lg".toList rfl
  obtain ⟨-, -, mapping, made, there, -, stands, named, item⟩ :=
    (routed (d := ⟨"--spacing-desktop-space-4", "16"⟩) (by decide)).2.1
      ⟨"--spacing-desktop-space", 9, "Spacing", .spacing⟩ (by decide) "-4".toList rfl
  cases there
  have value : ((stemMapping "Spacing" "--spacing-desktop-space" .spacing [pixels]).modify
      ⟨"--spacing-desktop-space-4", "16"⟩).value = "16px" := by
    decide +kernel
  rw [value] at item
  exact ⟨exported, a, h, dropped, size, made, stands, named, item⟩

end Standard

end DesignTokens
