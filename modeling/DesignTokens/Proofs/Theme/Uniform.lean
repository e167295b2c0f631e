import DesignTokens.Proofs.Theme.Assembly
import Mathlib.Data.Finset.SymmDiff

namespace DesignTokens

namespace VariantBlock

variable {v w : VariantBlock} {name : String}

def names (v : VariantBlock) : Finset String := (v.items.map Declaration.name).toFinset

def beyond (v w : VariantBlock) : List Declaration := v.items.filter fun d => d.name ∉ w.names

theorem mem_names : name ∈ v.names ↔ v.declares name = true := by
  simp [names, declares]

theorem names_eq_iff : v.names = w.names ↔ ∀ name, v.declares name = w.declares name := by
  rw [Finset.ext_iff]
  exact forall_congr' fun name => by rw [mem_names, mem_names, ← Bool.eq_iff_iff]

theorem names_beyond (v w : VariantBlock) :
    ((v.beyond w).map Declaration.name).toFinset = v.names \ w.names := by
  ext name
  simp only [beyond, names, List.mem_toFinset, List.mem_map, List.mem_filter, decide_eq_true_iff,
    Finset.mem_sdiff]
  constructor
  · rintro ⟨d, ⟨hd, apart⟩, rfl⟩
    exact ⟨⟨d, hd, rfl⟩, apart⟩
  · rintro ⟨⟨d, hd, rfl⟩, apart⟩
    exact ⟨d, ⟨hd, apart⟩, rfl⟩

theorem names_beyond_append (v w : VariantBlock) :
    ((v.beyond w ++ w.beyond v).map Declaration.name).toFinset = symmDiff v.names w.names := by
  rw [List.map_append, List.toFinset_append, names_beyond, names_beyond]
  rfl

theorem issues_eq (first v : VariantBlock) : first.issues v =
    (first.beyond v).map (fun d => .missing d.name v.name) ++
      (v.beyond first).map (fun d => .extra d.name v.name) := by
  have lacks (u : VariantBlock) : (fun d : Declaration => !u.declares d.name) =
      fun d => decide (d.name ∉ u.names) := by
    funext d
    simp [mem_names]
  rw [issues, beyond, beyond, lacks, lacks]

theorem map_message_issues (first v : VariantBlock) : (first.issues v).map Issue.message =
    (first.beyond v).map (fun d =>
        "Variable \"" ++ d.name ++ "\" is missing in theme \"" ++ v.name ++ "\".") ++
      (v.beyond first).map fun d =>
        "Variable \"" ++ d.name ++ "\" in theme \"" ++ v.name ++ "\" is not present in all themes." := by
  rw [issues_eq, List.map_append, List.map_map, List.map_map]
  rfl

end VariantBlock

/-- Variants are uniform exactly if any two of them declare the same names. Otherwise there is one
    line for each declaration that the first has beyond another variant, and one for each that the
    other has beyond the first: together they name all in which the two differ. -/
theorem checkUniform_reports (variants : List VariantBlock) :
    (checkUniform variants = .ok () ↔ ∀ v ∈ variants, ∀ w ∈ variants, v.names = w.names) ∧
    (checkUniform variants = .ok () ∨ ∃ first others issues, variants = first :: others ∧
      checkUniform variants = .error (.mismatch issues) ∧ issues ≠ [] ∧
      issues.map Issue.message = (others.flatMap fun v =>
        (first.beyond v).map (fun d =>
            "Variable \"" ++ d.name ++ "\" is missing in theme \"" ++ v.name ++ "\".") ++
          (v.beyond first).map fun d =>
            "Variable \"" ++ d.name ++ "\" in theme \"" ++ v.name ++
              "\" is not present in all themes.") ∧
      ∀ v ∈ others, ((first.beyond v ++ v.beyond first).map Declaration.name).toFinset =
        symmDiff first.names v.names) := by
  refine ⟨?_, ?_⟩
  · simp only [checkUniform_eq_ok_iff, VariantBlock.names_eq_iff]
  · cases variants with
    | nil => exact .inl rfl
    | cons first others =>
      rcases found : differences (first :: others) with _ | ⟨issue, more⟩
      · left
        rw [checkUniform, found]
      · refine .inr ⟨first, others, issue :: more, rfl, ?_, List.cons_ne_nil _ _, ?_, ?_⟩
        · rw [checkUniform, found]
        · rw [← found, differences, List.map_flatMap]
          exact List.flatMap_congr fun v _ => VariantBlock.map_message_issues first v
        · exact fun v _ => VariantBlock.names_beyond_append first v

def uneven : List VariantBlock :=
  [⟨"light", [⟨"--a", "1"⟩, ⟨"--b", "2"⟩, ⟨"--a", "3"⟩]⟩, ⟨"dark", [⟨"--b", "1"⟩, ⟨"--a", "2"⟩]⟩,
   ⟨"dark", [⟨"--c", "1"⟩, ⟨"--b", "2"⟩, ⟨"--c", "1"⟩]⟩]

theorem uneven_reports : checkUniform (uneven.take 2) = .ok () ∧
    ∃ issues, checkUniform uneven = .error (.mismatch issues) ∧
      issues.map Issue.message =
        ["Variable \"--a\" is missing in theme \"dark\".",
         "Variable \"--a\" is missing in theme \"dark\".",
         "Variable \"--c\" in theme \"dark\" is not present in all themes.",
         "Variable \"--c\" in theme \"dark\" is not present in all themes."] := by
  refine ⟨(checkUniform_reports _).1.2 (by decide), ?_⟩
  have failed : checkUniform uneven ≠ .ok () := by decide
  obtain ⟨first, others, issues, parts, result, -, lines, -⟩ :=
    (checkUniform_reports uneven).2.resolve_left failed
  obtain ⟨rfl, rfl⟩ := List.cons.inj parts
  exact ⟨issues, result, lines.trans (by decide +kernel)⟩

end DesignTokens
