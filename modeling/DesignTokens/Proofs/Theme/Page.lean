import DesignTokens.Proofs.Theme.Reading
import DesignTokens.Sheet.Format
import DesignTokens.Theme.Block

namespace DesignTokens

open Sheet (Row Nested Snug Spells Faithful Token)

structure Declaration.Returns (d : Declaration) : Prop where
  tidy : d.row.Tidy
  faithful : Faithful Sheet.protectable d.row.tokens
  text : Sheet.textOf d.row.tokens = d.render.toList
  candidate : d.row.candidate? = some d.statement
  parse : parse (Text.trim d.statement) = .ok d

theorem Declaration.Legible.returns {d : Declaration} (h : d.Legible) : d.Returns :=
  ⟨h.tidy, h.faithful, h.textOf_row, h.candidate, h.parse_statement⟩

structure Declaration.Heads (selector : List Token) : Prop where
  snug : Snug false selector true
  faithful : Faithful Sheet.protectable (Row.opening selector).tokens
  idle : Sheet.Idle (Sheet.textOf selector ++ [' ', '{'])

structure Sheet.Row.Sound (row : Row) : Prop where
  tidy : row.Tidy
  plain : row.Plain
  faithful : Faithful protectable row.tokens

/-- The rows can stand in any block, and the declarations are read from them. -/
structure Prints (rows : List Row) (ds : List Declaration) : Prop where
  sound : ∀ row ∈ rows, row.Sound
  nested : ∀ level more, Nested level more → Nested level (rows ++ more)
  read : ((rows.filterMap Row.candidate?).mapM fun s => Declaration.parse (Text.trim s)) = .ok ds

def Reads (text : String) (ds : List Declaration) : Prop :=
  Declaration.ofSheet text = .ok ds ∧
    ∃ out, Sheet.format .css text = .ok out ∧ Declaration.ofSheet out = .ok ds

def Page (s : List Char) (ds : List Declaration) : Prop :=
  ∃ rows tokens, Prints rows ds ∧ Spells rows tokens ∧ Sheet.textOf tokens = s

variable {rows rows' : List Row} {tokens tokens' : List Token} {ds es : List Declaration}
  {s t : List Char} {d : Declaration} {selector : List Token}

theorem Sheet.Spells.append (h : Spells rows tokens) (h' : Spells rows' tokens') :
    Spells (rows ++ rows') (tokens ++ tokens') := by
  induction h with
  | done => exact h'
  | blank hc _ ih => exact .blank hc ih
  | row row _ ih =>
    rw [List.append_assoc]
    exact .row row ih

namespace Prints

theorem nil : Prints [] [] := ⟨by simp, fun _ _ h => h, rfl⟩

theorem append (h : Prints rows ds) (h' : Prints rows' es) : Prints (rows ++ rows') (ds ++ es) where
  sound := List.forall_mem_append.2 ⟨h.sound, h'.sound⟩
  nested := by
    intro level more nested
    rw [List.append_assoc]
    exact h.nested level _ (h'.nested level more nested)
  read := by
    rw [List.filterMap_append, List.mapM_append, h.read, h'.read]
    rfl

theorem declaration (h : d.Returns) : Prints [d.row] [d] where
  sound := List.forall_mem_singleton.2 ⟨h.tidy, trivial, h.faithful⟩
  nested := fun _ _ nested => ⟨nofun, nested⟩
  read := by
    rw [List.filterMap_cons_some h.candidate, List.filterMap_nil, List.mapM_cons, h.parse]
    rfl

theorem comment {text : List Char} (tidy : (Row.comment text).Tidy)
    (faithful : Faithful Sheet.protectable [.comment text]) : Prints [.comment text] [] where
  sound := List.forall_mem_singleton.2 ⟨tidy, trivial, faithful⟩
  nested := fun _ _ nested => ⟨nofun, nested⟩
  read := rfl

theorem block (heads : Declaration.Heads selector) (h : Prints rows ds) :
    Prints (.opening selector :: (rows ++ [.closing])) ds where
  sound := by
    have closing : (Row.closing).Sound := ⟨trivial, trivial, by decide⟩
    exact List.forall_mem_cons.2 ⟨⟨heads.snug, heads.idle, heads.faithful⟩,
      List.forall_mem_append.2 ⟨h.sound, List.forall_mem_singleton.2 closing⟩⟩
  nested := by
    -- The opening brace raises the level by one, so the closing one has its partner.
    intro level more nested
    rw [List.cons_append, List.append_assoc]
    exact ⟨nofun, h.nested _ _ ⟨fun _ => Nat.succ_pos level, nested⟩⟩
  read := by
    rw [List.filterMap_cons_none rfl, List.filterMap_append, List.filterMap_cons_none rfl,
      List.filterMap_nil, List.append_nil]
    exact h.read

end Prints

namespace Page

theorem nil : Page [] [] := ⟨[], [], .nil, .done, rfl⟩

theorem append (h : Page s ds) (h' : Page t es) : Page (s ++ t) (ds ++ es) := by
  obtain ⟨rows, tokens, prints, spells, rfl⟩ := h
  obtain ⟨rows', tokens', prints', spells', rfl⟩ := h'
  exact ⟨_, _, prints.append prints', spells.append spells', Sheet.textOf_append _ _⟩

theorem blank {c : Char} (hc : Text.isBlank c = true) : Page [c] [] :=
  ⟨[], [.char c], .nil, .blank hc .done, rfl⟩

theorem of_row {row : Row} (h : Prints [row] ds) : Page (Sheet.textOf row.tokens) ds :=
  ⟨_, _, h, .row row .done, by simp⟩

theorem declaration (h : d.Returns) : Page d.render.toList [d] :=
  h.text ▸ of_row (.declaration h)

theorem block (heads : Declaration.Heads selector) (h : Page s ds) :
    Page (Sheet.textOf selector ++ ' ' :: '{' :: (s ++ ['}'])) ds := by
  obtain ⟨rows, tokens, prints, spells, rfl⟩ := h
  refine ⟨_, _, prints.block heads, .row _ (spells.append (.row .closing .done)), ?_⟩
  simp [Row.tokens, Token.text]

theorem flatMap {α : Type} {xs : List α} {text : α → List Char} {declared : α → List Declaration}
    (h : ∀ x ∈ xs, Page (text x) (declared x)) : Page (xs.flatMap text) (xs.flatMap declared) := by
  induction xs with
  | nil => exact nil
  | cons x xs ih =>
    obtain ⟨first, rest⟩ := List.forall_mem_cons.1 h
    exact first.append (ih rest)

theorem intercalate {α : Type} {xs : List α} {text : α → List Char}
    {declared : α → List Declaration} {sep : List Char} (between : Page sep [])
    (h : ∀ x ∈ xs, Page (text x) (declared x)) :
    Page (List.intercalate sep (xs.map text)) (xs.flatMap declared) := by
  induction xs with
  | nil => exact nil
  | cons x xs ih =>
    obtain ⟨first, rest⟩ := List.forall_mem_cons.1 h
    by_cases last : xs = []
    · subst last
      simpa using first
    · rw [List.map_cons, List.intercalate_cons_of_ne_nil (by simpa using last), List.flatMap_cons]
      simpa using (first.append between).append (ih rest)

theorem read {text : String} (h : Page text.toList ds) : Reads text ds := by
  obtain ⟨rows, tokens, prints, spells, spelled⟩ := h
  have tidy row hr := (prints.sound row hr).tidy
  have plain row hr := (prints.sound row hr).plain
  have faithful row hr := (prints.sound row hr).faithful
  have nested : Nested 0 rows := List.append_nil rows ▸ prints.nested 0 [] rfl
  constructor
  · rw [Declaration.ofSheet, ← spelled, spells.candidates tidy plain faithful]
    exact prints.read
  · obtain ⟨out, laid, read⟩ := spells.tidy nested tidy plain faithful
    refine ⟨.ofList out, ?_, ?_⟩
    · rw [Sheet.format, ← spelled]
      simp [laid]
    · rw [Declaration.ofSheet, String.toList_ofList, read]
      exact prints.read

variable {heading content : String}

theorem inBlock (heads : Declaration.Heads selector) (text : heading.toList = Sheet.textOf selector)
    (h : Page content.toList ds) : Page (DesignTokens.inBlock heading content).toList ds := by
  have line : Page ['\n'] [] := .blank (by decide)
  have block := ((line.append h).append line).block heads
  rw [List.nil_append, List.append_nil, ← text] at block
  simpa [DesignTokens.inBlock] using block

theorem renderLines (h : ∀ d ∈ ds, d.Returns) : Page (DesignTokens.renderLines ds).toList ds := by
  have pages := intercalate (.blank (c := '\n') (by decide)) fun d hd => declaration (h d hd)
  rw [List.flatMap_singleton'] at pages
  rw [DesignTokens.renderLines, String.toList_intercalate, List.map_map]
  exact pages

theorem join {α : Type} {xs : List α} {text : α → String} {declared : α → List Declaration}
    (h : ∀ x ∈ xs, Page (text x).toList (declared x)) :
    Page (String.join (xs.map text)).toList (xs.flatMap declared) := by
  rw [String.toList_join, List.flatMap_map]
  exact flatMap h

theorem line (h : Page content.toList ds) : Page (ThemeBlock.line content).toList ds := by
  have page := h.append (.blank (c := '\n') (by decide))
  rw [List.append_nil] at page
  rwa [ThemeBlock.line, String.toList_append]

theorem lines (h : ∀ d ∈ ds, d.Returns) : Page (ThemeBlock.lines ds).toList ds := by
  have pages := join fun d hd => line (declaration (h d hd))
  rwa [List.flatMap_singleton'] at pages

end Page

def rootSelector : List Token := ":root".toList.map .char

theorem heads_rootSelector : Declaration.Heads rootSelector :=
  ⟨by decide, by decide, fun _ => rfl⟩

theorem Page.inRoot {content : String} (h : Page content.toList ds) :
    Page (DesignTokens.inRoot content).toList ds :=
  .inBlock heads_rootSelector (Sheet.textOf_chars _).symm h

/-- A block of legible declarations can be laid out, and what is read from it then is the
    declarations. -/
theorem Declaration.ofSheet_format_block (heads : Heads selector) (h : ∀ d ∈ ds, d.Legible)
    (heading : String) (text : heading.toList = Sheet.textOf selector) :
    ∃ out, Sheet.format .css (inBlock heading (renderLines ds) ++ "\n") = .ok out ∧
      ofSheet out = .ok ds := by
  have block := Page.inBlock heads text (.renderLines fun d hd => (h d hd).returns)
  exact block.line.read.2

end DesignTokens
