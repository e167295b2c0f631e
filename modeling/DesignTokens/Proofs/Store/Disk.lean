import DesignTokens.Proofs.Success
import DesignTokens.Store.Disk

namespace DesignTokens

def Path.lead (loc : Location) : List (List Char) → Location
  | [] => loc
  | piece :: rest =>
    if piece = [] ∨ piece = ['.'] then lead loc rest
    else if piece = ['.', '.'] then lead loc.dropLast rest
    else lead (loc ++ [piece]) rest

def Path.place (path : Path) : Location := lead [] (pieces path.text.toList)

def Node.text? : Node → Option String
  | .directory => none
  | .file contents => some contents

namespace Disk

def file? (disk : Disk) (loc : Location) : Option String := (disk.node? loc).bind Node.text?

/-- All that a path leads through is there. -/
def Opens (disk : Disk) (path : Path) : Prop :=
  ∃ loc, disk.follow [] (Path.pieces path.text.toList) = .ok loc

variable {disk disk' : Disk} {loc loc' : Location} {node : Node} {path : Path}
  {pieces above : List (List Char)} {piece name : List Char} {contents text : String}

theorem lookup_replace (loc loc' : Location) (node : Node) (nodes : List (Location × Node)) :
    (replace loc node nodes).lookup loc' =
      if loc' = loc then some node else nodes.lookup loc' := by
  induction nodes with
  | nil => by_cases same : loc' = loc <;> simp [replace, List.lookup_cons, same, beq_false_of_ne]
  | cons other rest ih =>
    obtain ⟨place, held⟩ := other
    by_cases here : place = loc
    · subst here
      by_cases same : loc' = place <;>
        simp [replace, List.lookup_cons, same, beq_false_of_ne]
    · rw [replace, if_neg here]
      by_cases same : loc' = place
      · subst same
        simp [here]
      · simp [List.lookup_cons, same, beq_false_of_ne, ih]

theorem node?_put (ne : loc ≠ []) :
    (disk.put loc node).node? loc' = if loc' = loc then some node else disk.node? loc' := by
  by_cases root : loc' = []
  · subst root
    simp [node?, Ne.symm ne]
  · simp [node?, put, lookup_replace, root]

theorem file?_put (ne : loc ≠ []) :
    (disk.put loc node).file? loc' = if loc' = loc then node.text? else disk.file? loc' := by
  rw [file?, node?_put ne]
  split <;> rfl

theorem follow_eq (h : disk.follow loc pieces = .ok loc') : loc' = Path.lead loc pieces := by
  fun_induction follow disk loc pieces <;> simp_all [Path.lead]

theorem follow_append {more : List (List Char)} (h : disk.follow loc pieces = .ok loc') :
    disk.follow loc (pieces ++ more) = disk.follow loc' more := by
  fun_induction follow disk loc pieces <;> simp_all [follow]

theorem follow_of_none (free : disk.node? loc = none) (h : disk.follow loc pieces = .ok loc') :
    loc' = loc := by
  cases pieces with
  | nil => simpa [follow] using h.symm
  | cons piece rest => simp [follow, free] at h

theorem follow_concat_iff : (∃ loc', disk.follow loc (above ++ [piece]) = .ok loc') ↔
    ∃ mid, disk.follow loc above = .ok mid ∧ disk.node? mid = some .directory := by
  fun_induction follow disk loc above with
  | case1 loc =>
    rw [List.nil_append, follow]
    split
    · simp_all
    · simp_all
    · split
      · simp_all [follow]
      · split <;> simp_all [follow]
  | _ => simp_all [follow]

theorem read_eq_ok_iff :
    disk.read path = .ok text ↔ disk.Opens path ∧ disk.file? path.place = some text := by
  rw [read, find, Opens]
  cases led : disk.follow [] (Path.pieces path.text.toList) with
  | error e => simp [bind, Except.bind]
  | ok loc =>
    have place : path.place = loc := (follow_eq led).symm
    rw [file?, place]
    cases found : disk.node? loc with
    | none => simp [bind, Except.bind, found]
    | some node => cases node <;> simp [bind, Except.bind, found, Node.text?]

theorem opens_sibling {other : Path} {name' : List Char}
    (shape : Path.pieces path.text.toList = above ++ [name])
    (shape' : Path.pieces other.text.toList = above ++ [name']) :
    disk.Opens path ↔ disk.Opens other := by
  rw [Opens, Opens, shape, shape', follow_concat_iff, follow_concat_iff]

theorem follow_put_file (free : disk.node? loc ≠ some .directory) (ne : loc ≠ [])
    {start stop : Location} (h : disk.follow start pieces = .ok stop) :
    (disk.put loc (.file text)).follow start pieces = .ok stop := by
  fun_induction follow disk start pieces with
  | case1 => simpa [follow] using h
  | case2 | case3 => cases h
  | case4 start _ _ here _ _ | case5 start _ here _ _ | case6 start _ _ here _ _ _ =>
    have other : start ≠ loc := by
      rintro rfl
      exact free here
    simp_all [follow, node?_put ne]

theorem entrance_eq_ok {slashes : Bool} (h : disk.entrance path = .ok (some loc, slashes)) :
    ∃ name above mid,
      (Path.pieces path.text.toList).reverse.dropWhile (· = []) = name :: above ∧
      disk.follow [] above.reverse = .ok mid ∧ disk.node? mid = some .directory ∧
      ¬(name = ['.'] ∨ name = ['.', '.']) ∧ loc = mid ++ [name] ∧
      slashes = decide ((Path.pieces path.text.toList).reverse.head? = some []) := by
  rw [entrance] at h
  split at h
  · cases h
  · next name above shape =>
    obtain ⟨mid, led, h⟩ := bind_eq_ok_iff.1 h
    split at h
    · cases h
    · cases h
    · next here =>
      simp only [Except.ok.injEq, Prod.mk.injEq] at h
      obtain ⟨final, last⟩ := h
      split at final
      · cases final
      · next plain =>
        cases final
        exact ⟨name, above, mid, shape, led, here, plain, rfl, last.symm⟩

theorem lead_concat (plain : ¬(name = [] ∨ name = ['.'] ∨ name = ['.', '.'])) :
    Path.lead loc (above ++ [name]) = Path.lead loc above ++ [name] := by
  simp only [not_or] at plain
  fun_induction Path.lead loc above <;> simp_all [Path.lead]

theorem place_of_entrance (h : disk.entrance path = .ok (some loc, false)) :
    loc = path.place ∧ loc ≠ [] ∧ disk.Opens path := by
  obtain ⟨name, above, mid, shape, led, here, plain, rfl, last⟩ := entrance_eq_ok h
  have noSlash : (Path.pieces path.text.toList).reverse.head? ≠ some [] :=
    of_decide_eq_false last.symm
  have turned : (Path.pieces path.text.toList).reverse = name :: above := by
    cases pieces : (Path.pieces path.text.toList).reverse with
    | nil => simp [pieces] at shape
    | cons first rest =>
      rw [pieces] at shape noSlash
      rwa [List.dropWhile_cons_of_neg (by simpa using noSlash)] at shape
  have split : Path.pieces path.text.toList = above.reverse ++ [name] := by
    rw [← List.reverse_reverse (Path.pieces _), turned, List.reverse_cons]
  have filled : name ≠ [] := by
    rintro rfl
    exact noSlash (by rw [turned]; rfl)
  refine ⟨?_, by simp, ?_⟩
  · rw [Path.place, split, lead_concat (by simp [filled, not_or.1 plain]), ← follow_eq led]
  · rw [Opens, split]
    exact follow_concat_iff.2 ⟨mid, led, here⟩

theorem file?_makeDirectory (h : disk.makeDirectory path = .ok disk') :
    disk'.file? loc = disk.file? loc := by
  obtain ⟨⟨final, slashes⟩, way, h⟩ := bind_eq_ok_iff.1 h
  cases final with
  | none => cases h
  | some place =>
    obtain ⟨name, above, mid, -, -, -, -, rfl, -⟩ := entrance_eq_ok way
    dsimp only at h
    split at h
    · cases h
    · next free =>
      cases h
      rw [file?_put (by simp)]
      split
      · next same => rw [same, file?, free]; rfl
      · rfl

theorem file?_ensureDirectory {result : Except Refusal Unit}
    (h : disk.ensureDirectory path = (result, disk')) : disk'.file? loc = disk.file? loc := by
  unfold ensureDirectory at h
  split at h
  · next made =>
    cases h
    exact file?_makeDirectory made
  · cases h
    rfl

theorem file?_makeDirectories (paths : List Path) :
    (disk.makeDirectories paths).2.file? loc = disk.file? loc := by
  fun_induction makeDirectories disk paths with
  | case1 => rfl
  | case2 disk path _ disk₁ refused _ _ failed ih =>
    rw [← file?_ensureDirectory refused, ← ih, failed]
  | case3 disk path above disk₁ refused disk₂ made ih =>
    calc (disk₂.ensureDirectory path).2.file? loc
      _ = disk₂.file? loc := file?_ensureDirectory rfl
      _ = disk₁.file? loc := by rw [← ih, made]
      _ = disk.file? loc := file?_ensureDirectory refused
  | case4 => exact file?_ensureDirectory rfl

theorem file?_makeRoom : (disk.makeRoom path).2.file? loc = disk.file? loc := by
  unfold makeRoom
  split
  · rfl
  · exact file?_makeDirectories _

/-- A file that has been written holds its text, and every other file what it held. -/
theorem file?_write (h : disk.write path contents = .ok disk') :
    (∀ loc, disk'.file? loc = if loc = path.place then some contents else disk.file? loc) ∧
      disk'.Opens path := by
  obtain ⟨⟨final, slashes⟩, way, h⟩ := bind_eq_ok_iff.1 h
  cases final with
  | none => cases h
  | some place =>
    cases slashes with
    | true => cases h
    | false =>
      obtain ⟨rfl, ne, stop, led⟩ := place_of_entrance way
      dsimp only at h
      split at h
      · cases h
      · next free =>
        cases h
        exact ⟨fun loc => file?_put ne, stop, follow_put_file free ne led⟩

theorem file?_writeText (h : disk.writeText path contents = (.ok (), disk')) :
    (∀ loc, disk'.file? loc = if loc = path.place then some contents else disk.file? loc) ∧
      disk'.Opens path := by
  have room (loc : Location) : (disk.makeRoom path).2.file? loc = disk.file? loc := file?_makeRoom
  unfold writeText at h
  split at h
  · cases h
  · next disk₁ made =>
    split at h
    · cases h
    · next disk₂ wrote =>
      cases h
      obtain ⟨files, opens⟩ := file?_write wrote
      refine ⟨fun loc => ?_, opens⟩
      rw [files, ← room, made]

theorem isDirectory_iff : disk.isDirectory path = true ↔
    ∃ loc, disk.follow [] (Path.pieces path.text.toList) = .ok loc ∧
      disk.node? loc = some .directory := by
  rw [isDirectory, find]
  cases led : disk.follow [] (Path.pieces path.text.toList) with
  | error e => simp [bind, Except.bind]
  | ok loc =>
    cases found : disk.node? loc with
    | none => simp [bind, Except.bind, found]
    | some node => cases node <;> simp [bind, Except.bind, found]

theorem makeDirectory_of_isDirectory (there : disk.isDirectory path = true) :
    ∃ e, disk.makeDirectory path = .error e := by
  cases made : disk.makeDirectory path with
  | error e => exact ⟨e, rfl⟩
  | ok disk' =>
    obtain ⟨⟨final, slashes⟩, way, made⟩ := bind_eq_ok_iff.1 made
    cases final with
    | none => cases made
    | some place =>
      obtain ⟨name, above, mid, shape, led, here, plain, rfl, -⟩ := entrance_eq_ok way
      dsimp only at made
      split at made
      · cases made
      next free =>
      have split : Path.pieces path.text.toList = above.reverse ++
          (name :: ((Path.pieces path.text.toList).reverse.takeWhile (· = [])).reverse) := by
        rw [← List.reverse_inj]
        simp [← shape, List.takeWhile_append_dropWhile]
      have filled : name ≠ [] := by
        rintro rfl
        have first := List.head?_dropWhile_not (· = []) (Path.pieces path.text.toList).reverse
        rw [shape] at first
        simp at first
      obtain ⟨loc, reached, stands⟩ := isDirectory_iff.1 there
      -- The path leads from `mid` to the name of the new directory, and nowhere beyond it.
      rw [split, follow_append led, follow, here] at reached
      simp only [filled, not_or.1 plain, or_self, if_false] at reached
      rw [follow_of_none free reached, free] at stands
      cases stands

theorem makeRoom_of_isDirectory {directory : Path} (parent : path.parent? = some directory)
    (there : disk.isDirectory directory = true) : disk.makeRoom path = (.ok (), disk) := by
  obtain ⟨e, known⟩ := makeDirectory_of_isDirectory there
  have first : ∃ above, directory.ancestors = directory :: above := by
    unfold Path.ancestors
    cases directory.components.length <;> exact ⟨_, rfl⟩
  obtain ⟨above, nearest⟩ := first
  have ensured : disk.ensureDirectory directory = (.ok (), disk) := by
    rw [ensureDirectory, known]
    simp [there]
  rw [makeRoom, parent]
  simp only [nearest, makeDirectories, ensured]
  rfl

/-- A file can be written under the path: its directory is there, and none stands in its place. -/
structure Accepts (disk : Disk) (path : Path) : Prop where
  named : ∃ name ∈ (Path.pieces path.text.toList).getLast?,
    ¬(name = [] ∨ name = ['.'] ∨ name = ['.', '.'])
  room : ∃ directory ∈ path.parent?, disk.isDirectory directory = true
  opens : disk.Opens path
  free : disk.node? path.place ≠ some .directory

instance : Decidable (disk.Opens path) :=
  match led : disk.follow [] (Path.pieces path.text.toList) with
  | .ok loc => .isTrue ⟨loc, led⟩
  | .error _ => .isFalse fun ⟨_, other⟩ => nomatch led.symm.trans other

instance : Decidable (disk.Accepts path) :=
  decidable_of_iff
    ((∃ name ∈ (Path.pieces path.text.toList).getLast?,
        ¬(name = [] ∨ name = ['.'] ∨ name = ['.', '.'])) ∧
      (∃ directory ∈ path.parent?, disk.isDirectory directory = true) ∧
      disk.Opens path ∧ disk.node? path.place ≠ some .directory)
    ⟨fun ⟨named, room, opens, free⟩ => ⟨named, room, opens, free⟩,
      fun h => ⟨h.named, h.room, h.opens, h.free⟩⟩

namespace Accepts

variable {other : Path}

theorem exists_pieces (h : disk.Accepts path) : ∃ above name,
    Path.pieces path.text.toList = above ++ [name] ∧
      ¬(name = [] ∨ name = ['.'] ∨ name = ['.', '.']) := by
  obtain ⟨name, last, plain⟩ := h.named
  obtain ⟨above, shape⟩ := List.getLast?_eq_some_iff.1 last
  exact ⟨above, name, shape, plain⟩

theorem place_ne_nil (h : disk.Accepts path) : path.place ≠ [] := by
  obtain ⟨above, name, shape, plain⟩ := h.exists_pieces
  rw [Path.place, shape, lead_concat plain]
  simp

theorem write (h : disk.Accepts path) (contents : String) :
    disk.write path contents = .ok (disk.put path.place (.file contents)) := by
  obtain ⟨above, name, shape, plain⟩ := h.exists_pieces
  obtain ⟨filled, noStep⟩ := not_or.1 plain
  have opens := h.opens
  rw [Opens, shape, follow_concat_iff] at opens
  obtain ⟨mid, led, here⟩ := opens
  have place : path.place = mid ++ [name] := by
    rw [Path.place, shape, lead_concat plain, follow_eq led]
  have way : disk.entrance path = .ok (some path.place, false) := by
    rw [entrance, shape]
    simp [filled, led, here, noStep, place, bind, Except.bind]
  rw [Disk.write, way]
  simp only [bind, Except.bind]
  split
  · next stands => exact absurd stands h.free
  · rfl

theorem writeText (h : disk.Accepts path) (contents : String) :
    disk.writeText path contents = (.ok (), disk.put path.place (.file contents)) := by
  obtain ⟨directory, parent, there⟩ := h.room
  rw [Disk.writeText, makeRoom_of_isDirectory parent there]
  dsimp only
  rw [h.write]

theorem put (h : disk.Accepts path) (h' : disk.Accepts other) :
    (disk.put path.place (.file text)).Accepts other where
  named := h'.named
  room := by
    obtain ⟨directory, parent, there⟩ := h'.room
    obtain ⟨loc, led, stands⟩ := isDirectory_iff.1 there
    have apart : loc ≠ path.place := by
      rintro rfl
      exact h.free stands
    refine ⟨directory, parent, isDirectory_iff.2 ⟨loc, ?_, ?_⟩⟩
    · exact follow_put_file h.free h.place_ne_nil led
    · rw [node?_put h.place_ne_nil, if_neg apart, stands]
  opens := by
    obtain ⟨loc, led⟩ := h'.opens
    exact ⟨loc, follow_put_file h.free h.place_ne_nil led⟩
  free := by
    rw [node?_put h.place_ne_nil]
    split
    · simp
    · exact h'.free

end Accepts

end Disk

end DesignTokens
