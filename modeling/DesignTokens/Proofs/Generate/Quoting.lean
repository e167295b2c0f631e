import DesignTokens.Proofs.Generate.Files
import DesignTokens.Proofs.Sheet.Phrase

namespace DesignTokens

open Sheet (Phrase Quiet Kept Enclosed Row onLines)

namespace Literal

variable {gap : Bool}

theorem phrase_commas {r g b a : List Char} (hr : Quiet r) (hg : Quiet g) (hb : Quiet b)
    (ha : Quiet a) :
    ∃ tokens, Phrase false ("rgba(".toList ++ r ++ ", ".toList ++ g ++ ", ".toList ++ b ++
      ", ".toList ++ a ++ [')']) tokens true := by
  have start : Quiet "rgba(".toList := by decide
  have comma : Quiet [','] := by decide
  have stop : Quiet [')'] := by decide
  have first : Phrase false ("rgba(".toList ++ (r ++ [','])) _ true :=
    .word (start.append (hr.append comma)) (by simp)
  have second : Phrase true (' ' :: (g ++ [','])) _ true := .further (hg.append comma) (by simp)
  have third : Phrase true (' ' :: (b ++ [','])) _ true := .further (hb.append comma) (by simp)
  have last : Phrase true (' ' :: (a ++ [')'])) _ true := .further (ha.append stop) (by simp)
  have whole := ((first.append second).append third).append last
  exact ⟨_, by simpa using whole⟩

theorem scssColor_phrase (c : Color) : ∃ tokens, Phrase false (scssColor c) tokens true :=
  phrase_commas (.of_plain (channel_plain c.red)) (.of_plain (channel_plain c.green))
    (.of_plain (channel_plain c.blue)) (.of_plain (Number.plain_plain (c.alpha.getD 1)))

theorem phrase {target : Target} {value : Concrete} {literal : String}
    (found : value.literal? target = some literal)
    (enclosed : ∀ text, value = .text text → Enclosed (quoteMark target) text.toList) :
    ∃ tokens, Phrase false literal.toList tokens true := by
  obtain ⟨s, chars, rfl⟩ := Option.map_eq_some_iff.1 found
  rw [String.toList_ofList]
  cases value with
  | text text =>
    cases chars
    exact ⟨_, .quoted (enclosed text rfl) (by cases target <;> rfl)⟩
  | number x =>
    cases chars
    exact ⟨_, .plain (Number.literal_plain x) (Number.literal_ne_nil x)⟩
  | boolean b =>
    cases chars
    cases b <;> exact ⟨_, .plain (by decide) (by decide)⟩
  | color c =>
    cases chars
    cases target with
    | css => exact ⟨_, .words (cssColor_worded c)⟩
    | scss => exact scssColor_phrase c
  | unsupported raw => cases chars

end Literal

namespace Generator.Kind

def target : Kind → Target
  | .css _ => .css
  | .scss .. => .scss

/-- If the generator writes the token as a string, its text can stand between quote marks. -/
def Encloses (kind : Kind) (e : Emission) : Prop :=
  (kind.line? e).isSome →
    ∀ text, e.value = .text text → Enclosed (Literal.quoteMark kind.target) text.toList

instance (kind : Kind) (e : Emission) : Decidable (kind.Encloses e) :=
  match h : e.value with
  | .text s =>
    decidable_of_iff
      ((kind.line? e).isSome → Enclosed (Literal.quoteMark kind.target) s.toList) <| by
      unfold Encloses
      simp only [h, Concrete.text.injEq, forall_eq']
  | .number _ | .boolean _ | .color _ | .unsupported _ => isTrue fun _ _ same => by simp [h] at same

def files (g : TokenGraph) : Kind → List (Path × String)
  | .css path =>
    let lines := g.emissions.map fun e => "    " ++ e.declaration.render
    [(path, onLines (":root \x7b" :: lines ++ ["\x7d"]))]
  | .scss directory marked =>
    g.places.filterMap fun place =>
      let lines := place.assignments g marked
      if lines = [] then none else some (directory.join ⟨place.file⟩, onLines lines)

variable {kind : Kind} {e : Emission} {line : String}

theorem phrase_assignment {c : Char} {name value : List Char} {tokens : List Sheet.Token}
    {after : Bool} (quiet : Quiet (c :: name)) (spelled : Phrase false value tokens after) :
    ∃ tokens', Phrase false (c :: (name ++ ':' :: ' ' :: value)) tokens' after := by
  have colon : Quiet [':'] := by decide
  have start : Phrase false (c :: name ++ [':']) _ true := .word (quiet.append colon) (by simp)
  have whole := (start.append .space).append spelled
  exact ⟨_, by simpa using whole⟩

theorem kept_line (written : kind.line? e = some line) (enclosed : kind.Encloses e) :
    Kept line := by
  have strings := enclosed (by simp [written])
  cases kind with
  | css path =>
    cases written
    obtain ⟨stem, name, dashed⟩ := e.place.property_dashed e.token.name
    have quiet : Quiet ('-' :: '-' :: stem) :=
      .cons (by decide) (.cons (by decide) (.of_plain dashed.plain))
    have value : ∃ tokens after,
        Phrase false ((e.value.literal? .css).getD "").toList tokens after := by
      cases found : e.value.literal? .css with
      | none => exact ⟨[], false, .nil⟩
      | some literal =>
        obtain ⟨tokens, spelled⟩ := Literal.phrase found strings
        exact ⟨tokens, true, spelled⟩
    obtain ⟨tokens, after, spelled⟩ := value
    obtain ⟨tokens, whole⟩ := phrase_assignment quiet spelled
    apply whole.kept (by decide)
    simp [Declaration.render, Emission.declaration, name]
  | scss directory marked =>
    simp only [line?, Emission.assignment?] at written
    split at written
    · cases written
    · obtain ⟨literal, found, rfl⟩ := Option.map_eq_some_iff.1 written
      have plain : Text.Plain (Naming.camel e.token.name).toList :=
        fun c hc => Text.isPlain_of_isAlphanum (Naming.camel_alphanum _ c hc)
      have quiet : Quiet ('$' :: (Naming.camel e.token.name).toList) :=
        .cons (by decide) (.of_plain plain)
      obtain ⟨tokens, spelled⟩ := Literal.phrase found strings
      have value : ∃ tokens, Phrase false
          (literal.toList ++ (if marked then " !default" else "").toList) tokens true := by
        cases marked with
        | false => exact ⟨tokens, by simpa using spelled⟩
        | true =>
          have mark : Phrase true (' ' :: "!default".toList) _ true :=
            .further (by decide) (by decide)
          exact ⟨_, spelled.append mark⟩
      obtain ⟨tokens, spelled⟩ := value
      obtain ⟨tokens, whole⟩ := phrase_assignment quiet spelled
      apply whole.kept (by decide)
      simp

end Generator.Kind

section

variable {g : TokenGraph} {kind : Generator.Kind}

theorem TokenGraph.mem_emissions {place : Place} (h : place ∈ g.places) {id : String}
    (member : id ∈ place.collection.members) {e : Emission}
    (emits : place.emission? g id = some e) : e ∈ g.emissions := by
  obtain ⟨c, hc, listed⟩ := List.mem_flatMap.1 h
  obtain ⟨mode, hm, rfl⟩ := List.mem_map.1 listed
  exact List.mem_flatMap.2 ⟨c, hc, List.mem_flatMap.2 ⟨mode, hm,
    List.mem_filterMap.2 ⟨id, member, emits⟩⟩⟩

theorem TokenGraph.file?_stylesheet {path : Path}
    (enclosed : ∀ e ∈ g.emissions, (Generator.Kind.css path).Encloses e) :
    [(g.stylesheet path).file?] = ((Generator.Kind.css path).files g).map some := by
  have kept : ∀ line ∈ g.emissions.map fun e => e.declaration.render, Kept line := by
    intro line hl
    obtain ⟨e, he, rfl⟩ := List.mem_map.1 hl
    have written : (Generator.Kind.css path).line? e = some e.declaration.render := rfl
    exact Generator.Kind.kept_line written (enclosed e he)
  have heading : Sheet.textOf rootSelector = ":root".toList := Sheet.textOf_chars _
  have laid := Sheet.format_block kept heading heads_rootSelector.snug
    (heads_rootSelector.faithful.mono fun _ _ => rfl)
  have text : (g.stylesheet path).contents = ":root" ++ " \x7b\n" ++
      "\n".intercalate (g.emissions.map fun e => e.declaration.render) ++ "\n\x7d\n" := rfl
  rw [← text] at laid
  rw [Artifact.file?, show (g.stylesheet path).dialect = .css from rfl, laid, List.map_map]
  rfl

theorem Place.kept_assignments {directory : Path} {marked : Bool} {place : Place}
    (h : place ∈ g.places)
    (enclosed : ∀ e ∈ g.emissions, (Generator.Kind.scss directory marked).Encloses e) :
    ∀ line ∈ place.assignments g marked, Kept line := by
  intro line hl
  obtain ⟨e, he, written⟩ := List.mem_filterMap.1 hl
  obtain ⟨id, member, emits⟩ := List.mem_filterMap.1 he
  have line : (Generator.Kind.scss directory marked).line? e = some line := written
  exact Generator.Kind.kept_line line (enclosed e (TokenGraph.mem_emissions h member emits))

/-- All that a generator hands out is laid out, line by line. -/
theorem Generator.map_file?_handedOut (ended : ((ofKind kind).run g).2 = none)
    (enclosed : ∀ e ∈ g.emissions, kind.Encloses e) :
    ((ofKind kind).handedOut g).map Artifact.file? = (kind.files g).map some := by
  cases kind with
  | css path =>
    rw [handedOut_css ended]
    exact TokenGraph.file?_stylesheet enclosed
  | scss directory marked =>
    rw [handedOut_scss ended, Kind.files, List.map_filterMap, List.map_filterMap]
    apply List.filterMap_congr
    intro place h
    have laid := Sheet.format_lines (Place.kept_assignments h enclosed)
    by_cases empty : place.assignments g marked = []
    · simp [Place.artifact?, empty]
    · simp [Place.artifact?, empty, Artifact.file?, laid, Except.toOption]

end

/-- If every string that generators write can stand between quote marks, a run that succeeds skips
    no file, and each file that is written has its declarations line by line. -/
theorem generateAll_enclosed {g : TokenGraph} {kinds : List Generator.Kind} {store store' : Store}
    {report : Report} (enclosed : ∀ kind ∈ kinds, ∀ e ∈ g.emissions, kind.Encloses e)
    (done : (generateAll g Store.sink (kinds.map Generator.ofKind)).run store =
      (.ok report, store')) :
    let files := kinds.flatMap (Generator.Kind.files g)
    report.notWritten = 0 ∧ report.written = files.length ∧ store' = store.writeAll files := by
  intro files
  obtain ⟨ended, rfl, written, all⟩ := generateAll_sink_files done
  obtain ⟨handed, same⟩ : ∃ handed,
      (kinds.map Generator.ofKind).flatMap (Generator.handedOut g) = handed := ⟨_, rfl⟩
  rw [same] at written all ⊢
  have laid : handed.map Artifact.file? = files.map some := by
    rw [← same, List.flatMap_map, List.map_flatMap, List.map_flatMap]
    apply List.flatMap_congr
    intro kind hk
    exact Generator.map_file?_handedOut (ended _ (List.mem_map_of_mem hk)) (enclosed kind hk)
  have kept : handed.filterMap Artifact.file? = files := by
    have known := congrArg (List.filterMap id) laid
    simpa using known
  have size : handed.length = files.length := by
    simpa using congrArg List.length laid
  rw [kept] at written ⊢
  exact ⟨by omega, written, rfl⟩

def captions (greeting : String) : TokenGraph where
  collections := .ofList
    [("c", ⟨"c", "Copy", [⟨"m", "Default"⟩], "m", false, ["a", "b"], .empty⟩)]
  tokens := .ofList
    [("a", ⟨"a", "greeting", "c", .ofList [("m", some (.concrete (.text greeting)))], false,
       .empty⟩),
     ("b", ⟨"b", "on", "c", .ofList [("m", some (.concrete (.boolean true)))], false, .empty⟩)]

theorem captions_enclosed :
    let kinds : List Generator.Kind := [.css ⟨"out.css"⟩, .scss ⟨"scss"⟩ true]
    let greeting := "it\\'s \\\"\x7b;/*\\\"  --x\\\\"
    (∀ kind ∈ kinds, ∀ e ∈ (captions greeting).emissions, kind.Encloses e) ∧
      ∃ store', (generateAll (captions greeting) Store.sink (kinds.map Generator.ofKind)).run
          .empty = (.ok ⟨⟨4, 0, 0⟩, 2, 0⟩, store') ∧
        store' = Store.empty.writeAll (kinds.flatMap (Generator.Kind.files (captions greeting))) := by
  intro kinds greeting
  have enclosed : ∀ kind ∈ kinds, ∀ e ∈ (captions greeting).emissions, kind.Encloses e := by
    decide +kernel
  have report : ((generateAll (captions greeting) Store.sink (kinds.map Generator.ofKind)).run
      .empty).1 = .ok ⟨⟨4, 0, 0⟩, 2, 0⟩ := by decide +kernel
  obtain ⟨store', done⟩ : ∃ store', (generateAll (captions greeting) Store.sink
      (kinds.map Generator.ofKind)).run .empty = (.ok ⟨⟨4, 0, 0⟩, 2, 0⟩, store') :=
    ⟨_, Prod.ext report rfl⟩
  exact ⟨enclosed, store', done, (generateAll_enclosed enclosed done).2.2⟩

/-- An apostrophe ends its string, so that the mark behind it opens one that never ends: nothing is
    written, and the flag is lost with the greeting. -/
theorem captions_skipped :
    let ran := (generateAll (captions "it's") Store.sink [.ofKind (.css ⟨"out.css"⟩)]).run .empty
    ran.1 = .ok ⟨⟨2, 0, 0⟩, 0, 1⟩ ∧ ran.2.files = [] := by
  decide +kernel

end DesignTokens
