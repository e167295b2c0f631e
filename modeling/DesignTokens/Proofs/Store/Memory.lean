import DesignTokens.Store.Publish

namespace DesignTokens.Store

variable {path other : Path} {contents : String}

theorem find?_put (path other : Path) (contents : String) (files : List (Path × String)) :
    ((put path contents files).find? fun file => file.1.key = other.key).map Prod.snd =
      if other.key = path.key then some contents
      else (files.find? fun file => file.1.key = other.key).map Prod.snd := by
  induction files with
  | nil =>
    by_cases same : other.key = path.key
    · simp [put, same]
    · simp [put, same, Ne.symm same]
  | cons file rest ih =>
    rw [put]
    cases order : compare path.key file.1.key with
    | lt =>
      by_cases same : other.key = path.key
      · simp [same]
      · simp [same, Ne.symm same]
    | eq =>
      have here : path.key = file.1.key := Std.LawfulEqOrd.eq_of_compare order
      by_cases same : other.key = path.key
      · simp [same, here]
      · simp [same, here ▸ Ne.symm same]
    | gt =>
      have elsewhere : path.key ≠ file.1.key := by
        intro same
        rw [same, Std.ReflOrd.compare_self] at order
        cases order
      by_cases found : file.1.key = other.key
      · have apart : other.key ≠ path.key := fun e => elsewhere (found.trans e).symm
        simp [found, apart]
      · simp only [found, decide_false, Bool.false_eq_true, not_false_eq_true,
          List.find?_cons_of_neg, ih]

theorem get?_write (store : Store) (path other : Path) (contents : String) :
    (store.write path contents).get? other =
      if other.key = path.key then some contents else store.get? other :=
  find?_put path other contents store.files

end DesignTokens.Store
