import DesignTokens.Proofs.Pattern.Language

namespace DesignTokens.Regex

open Reached

variable {P : Array Step} {found : Reached} {best : Option (List Char)} {k : Nat} {c d : Char}
  {s t : List Char} {front back : Bool}

section

variable {set : CharSet} {n : Nat}

theorem follow_one (here : P[k]? = some (.one set)) (fresh : found.contains k = false) :
    follow P front back (n + 1) found k = found.add k := by
  rw [follow, fresh, if_neg (by simp), here]

theorem follow_end (fresh : found.contains P.size = false) :
    follow P front back (n + 1) found P.size = found.add P.size := by
  rw [follow, fresh, if_neg (by simp), Array.getElem?_size]

theorem reach_one (here : P[k]? = some (.one set)) (fresh : found.contains k = false) :
    found.reach P front back k = found.add k := follow_one here fresh

theorem reach_end : nothing.reach P front back P.size = nothing.add P.size := follow_end (by simp)

theorem reach_front (here : P[0]? = some .atStart) (next : P[1]? = some (.one set)) :
    nothing.reach P true back 0 = (nothing.add 0).add 1 := by
  have size : 0 < P.size := (Array.getElem?_eq_some_iff.1 here).1
  obtain ⟨n, bound⟩ := Nat.exists_eq_add_one.2 size
  rw [reach, bound, follow, if_neg (by simp), here]
  simp only [if_true]
  exact follow_one next (by simp)

theorem reach_fork {length : Nat} (size : P.size = k + 1 + length) (word : 0 < length)
    (here : P[k]? = some (.fork 1 (length + 1))) (next : P[k + 1]? = some (.one set)) :
    nothing.reach P front back k = ((nothing.add k).add (k + 1)).add P.size := by
  have first : ((k : Int) + 1).toNat = k + 1 := by omega
  have second : ((k : Int) + (length + 1)).toNat = P.size := by omega
  have apart : P.size ≠ k ∧ P.size ≠ k + 1 := by omega
  obtain ⟨n, fuel⟩ : ∃ n, follow P front back P.size = follow P front back (n + 1) :=
    ⟨k + length, by rw [size, Nat.add_right_comm]⟩
  rw [reach, follow, if_neg (by simp), here]
  dsimp only
  rw [first, second, fuel, follow_one next (by simp), follow_end (by simp [apart])]

end

theorem readAt_one (here : P[k]? = some (.one (.single d))) (found : Reached) :
    readAt P c back found k = if c = d then found.reach P false back (k + 1) else found := by
  simp [readAt, here, CharSet.contains]

theorem takeWhile_ne_size {steps : List Nat} (going : P.size ∉ steps) :
    steps.takeWhile (fun step => decide (step ≠ P.size)) = steps := by
  rw [← List.append_nil steps, List.takeWhile_append_of_pos]
  · simp
  · exact fun step hs => decide_eq_true fun same => going (same ▸ hs)

theorem run_of_steps (steps : List Nat) (reached : found.steps.toList = steps) (ne : steps ≠ [])
    (unfinished : found.contains P.size = false) (going : P.size ∉ steps) :
    run P found best (c :: s) = run P (Reached.read P c s.isEmpty steps) best s := by
  rw [run, unfinished, reached, takeWhile_ne_size going]
  simp [ne]

theorem run_of_match (steps : List Nat) (reached : found.steps.toList = steps ++ [P.size])
    (ne : steps ≠ []) (matched : found.contains P.size = true) (going : P.size ∉ steps) :
    run P found best (c :: s) = run P (Reached.read P c s.isEmpty steps) (some (c :: s)) s := by
  have kept : (steps ++ [P.size]).takeWhile (fun step => decide (step ≠ P.size)) = steps := by
    have before := takeWhile_ne_size going
    rw [List.takeWhile_append, before]
    simp
  rw [run, matched, reached, kept]
  simp [ne]

theorem run_nothing : run P nothing best s = best := by
  cases s <;> simp [run]

theorem run_end : run P (nothing.add P.size) best s = some s := by
  cases s <;> simp [run]

theorem run_char (here : P[k]? = some (.one (.single d))) :
    run P (nothing.add k) best (c :: s) =
      if c = d then run P (nothing.reach P false s.isEmpty (k + 1)) best s else best := by
  have size : P.size ≠ k := by
    have bound := (Array.getElem?_eq_some_iff.1 here).1
    omega
  rw [run_of_steps [k] (by simp) (by simp) (by simp [size]) (by simpa using size),
    Reached.read, List.foldl_cons, List.foldl_nil, readAt_one here]
  split
  · rfl
  · exact run_nothing

theorem run_chars (ne : t ≠ []) (there : Stands P k (t.map fun c => .one (.single c))) :
    run P (nothing.add k) best s =
      if t <+: s then
        run P (nothing.reach P false (s.drop t.length).isEmpty (k + t.length)) best
          (s.drop t.length)
      else best := by
  induction t generalizing k s with
  | nil => contradiction
  | cons d t ih =>
    have here := there.head
    have size : P.size ≠ k := by
      have bound := (Array.getElem?_eq_some_iff.1 here).1
      omega
    cases s with
    | nil => simp [run, size]
    | cons c s =>
      rw [run_char here]
      by_cases same : c = d
      · subst same
        cases t with
        | nil => simp
        | cons e t =>
          have next : nothing.reach P false s.isEmpty (k + 1) = nothing.add (k + 1) :=
            reach_one there.tail.head (by simp)
          rw [if_pos rfl, next, ih (by simp) there.tail, List.length_cons (a := c),
            Nat.add_right_comm, Nat.add_assoc]
          simp [List.cons_prefix_cons]
      · have other : ¬(d :: t <+: c :: s) := fun h => same (List.cons_prefix_cons.1 h).1.symm
        rw [if_neg same, if_neg other]

theorem program_all (rs : List Regex) : (all rs).program = rs.flatMap program := by
  induction rs with
  | nil => rfl
  | cons a rest ih =>
    cases rest with
    | nil => simp [all]
    | cons b rest =>
      rw [List.flatMap_cons, ← ih]
      rfl

theorem flatMap_program_chars (text : String) :
    (chars text).flatMap program = text.toList.map fun c => .one (.single c) := by
  rw [chars, List.flatMap_map, List.map_eq_flatMap]
  rfl

def stem (text word : String) : Regex :=
  all (.atStart :: chars text ++ [optional (all (chars word))])

def stemProgram (text word : List Char) : List Step :=
  .atStart :: (text.map (fun c => .one (.single c)) ++
    .fork 1 (word.length + 1) :: word.map fun c => .one (.single c))

theorem program_stem (text word : String) :
    (stem text word).program = stemProgram text.toList word.toList := by
  have letters := flatMap_program_chars word
  simp [stem, program_all, flatMap_program_chars, stemProgram, optional, program, Step.times,
    Step.upTo, Step.optional, Step.choose]

theorem stands_stemProgram {text word : List Char} (hP : (stemProgram text word).toArray = P) :
    P[0]? = some .atStart ∧ Stands P 1 (text.map fun c => .one (.single c)) ∧
      P[1 + text.length]? = some (.fork 1 (word.length + 1)) ∧
      Stands P (1 + text.length + 1) (word.map fun c => .one (.single c)) ∧
      P.size = 1 + text.length + 1 + word.length := by
  subst hP
  have characters := stands_toArray [.atStart] (text.map fun c => .one (.single c))
    (.fork 1 (word.length + 1) :: word.map fun c => .one (.single c))
  have rest := stands_toArray (.atStart :: text.map fun c => .one (.single c))
    (.fork 1 (word.length + 1) :: word.map fun c => .one (.single c)) []
  simp only [List.length_cons, List.length_map, List.append_nil, List.cons_append,
    Nat.add_comm _ 1] at rest
  refine ⟨rfl, characters, rest.head, rest.tail, ?_⟩
  simp only [stemProgram, List.size_toArray, List.length_cons, List.length_append, List.length_map]
  omega

theorem run_word {word : List Char} (ne : word ≠ []) (size : P.size = k + 1 + word.length)
    (fork : P[k]? = some (.fork 1 (word.length + 1)))
    (letters : Stands P (k + 1) (word.map fun c => .one (.single c))) :
    run P (nothing.reach P front back k) best s =
      some (if word <+: s then s.drop word.length else s) := by
  obtain ⟨d, word', rfl⟩ := List.exists_cons_of_ne_nil ne
  have apart : P.size ≠ k ∧ P.size ≠ k + 1 := by
    rw [size, List.length_cons]
    omega
  -- The fork prefers the word; the end of the program is reached with it and kept as a match.
  have matched : run P (nothing.reach P front back k) best s =
      run P (nothing.add (k + 1)) (some s) s := by
    rw [reach_fork size (by simp) fork letters.head]
    cases s with
    | nil => simp [run, apart]
    | cons c s =>
      rw [run_of_match [k, k + 1] (by simp) (by simp) (by simp) (by simpa using apart),
        run_of_steps [k + 1] (by simp) (by simp) (by simp [apart]) (by simp [apart])]
      simp [Reached.read, readAt, fork]
  rw [matched, run_chars ne letters, ← size, reach_end, run_end]
  split <;> rfl

theorem leading?_stem {text word : String} (characters : text.toList ≠ [])
    (letters : word.toList ≠ []) :
    (stem text word).leading? s =
      if text.toList <+: s then
        some (if word.toList <+: s.drop text.toList.length
          then (s.drop text.toList.length).drop word.toList.length
          else s.drop text.toList.length)
      else none := by
  obtain ⟨P, hP⟩ : ∃ P, (stemProgram text.toList word.toList).toArray = P := ⟨_, rfl⟩
  obtain ⟨atStart, standing, fork, wordStanding, size⟩ := stands_stemProgram hP
  obtain ⟨d, text', begins⟩ := List.exists_cons_of_ne_nil characters
  have first : P[1]? = some (.one (.single d)) := by
    rw [begins] at standing
    exact standing.head
  have apart : P.size ≠ 0 ∧ P.size ≠ 1 := by omega
  have started : run P (nothing.reach P true s.isEmpty 0) none s = run P (nothing.add 1) none s := by
    rw [reach_front atStart first]
    cases s with
    | nil => simp [run, apart]
    | cons c s =>
      rw [run_of_steps [0, 1] (by simp) (by simp) (by simp [apart]) (by simp [apart]),
        run_of_steps [1] (by simp) (by simp) (by simp [apart]) (by simp [apart])]
      simp [Reached.read, readAt, atStart]
  rw [leading?, program_stem]
  simp only [hP]
  rw [started, run_chars characters standing, run_word letters size fork wordStanding]

end DesignTokens.Regex
