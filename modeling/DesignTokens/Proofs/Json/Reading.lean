import DesignTokens.Json.Render
import DesignTokens.Proofs.Json.Numeral

namespace DesignTokens.Json

def pieceOf (c : Char) : Piece :=
  if c.toNat < 32 ∧ c ∉ ['\x08', '\t', '\n', '\x0c', '\r'] then .unit c.toNat else .char c

theorem hexCode?_control :
    ∀ n < 32, hexCode? '0' '0' (hexDigit (n / 16)) (hexDigit (n % 16)) = some n := by decide

theorem readPieces_plain {c : Char} (quote : c ≠ '"') (escape : c ≠ '\\') (s : List Char) :
    readPieces (c :: s) = if c.toNat < 32 then none else
      (readPieces s).map fun (pieces, rest) => (.char c :: pieces, rest) := by
  rw [readPieces.eq_def]
  split
  case h_5 same =>
    cases same
    cases readPieces s <;> rfl
  all_goals simp_all

theorem readPieces_escapeChar (c : Char) (s : List Char) :
    readPieces (escapeChar c ++ s) =
      (readPieces s).map fun (pieces, rest) => (pieceOf c :: pieces, rest) := by
  unfold escapeChar
  split
  case h_8 h1 h2 h3 h4 h5 h6 h7 =>
    split
    · rename_i control
      have code := hexCode?_control _ control
      have piece : pieceOf c = .unit c.toNat :=
        if_pos ⟨control, by simp only [List.mem_cons, not_or]; exact ⟨h3, h4, h5, h6, h7, by simp⟩⟩
      change readPieces ('\\' :: 'u' :: '0' :: '0' :: hexDigit (c.toNat / 16) ::
        hexDigit (c.toNat % 16) :: s) = _
      rw [readPieces, code, piece]
      cases readPieces s <;> rfl
    · rename_i printed
      have piece : pieceOf c = .char c := if_neg (fun h => printed h.1)
      rw [List.singleton_append, readPieces_plain h1 h2, if_neg printed, piece]
  all_goals
    cases h : readPieces s <;> simp [readPieces, shortEscape?, pieceOf, h]

theorem joinPieces_pieceOf (c : Char) (pieces : List Piece) :
    joinPieces (pieceOf c :: pieces) = (joinPieces pieces).map (c :: ·) := by
  rw [pieceOf]
  split
  · rename_i control
    have lead : isLead c.toNat = false := by
      simp only [isLead, Bool.and_eq_false_iff, decide_eq_false_iff_not]
      omega
    have trail : isTrail c.toNat = false := by
      simp only [isTrail, Bool.and_eq_false_iff, decide_eq_false_iff_not]
      omega
    cases pieces with
    | nil => simp [joinPieces, lead, trail]
    | cons piece pieces => cases piece <;> simp [joinPieces, lead, trail]
  · rfl

theorem readText_quote (text : String) (rest : List Char) :
    readText (text.toList.flatMap escapeChar ++ '"' :: rest) = some (some text, rest) := by
  have pieces (s : List Char) :
      readPieces (s.flatMap escapeChar ++ '"' :: rest) = some (s.map pieceOf, rest) := by
    induction s with
    | nil => rfl
    | cons c s ih =>
      rw [List.flatMap_cons, List.append_assoc, readPieces_escapeChar, ih]
      rfl
  have chars (s : List Char) : joinPieces (s.map pieceOf) = some s := by
    induction s with
    | nil => rfl
    | cons c s ih =>
      rw [List.map_cons, joinPieces_pieceOf, ih]
      rfl
  simp [readText, pieces, chars]

mutual

def toNode : Json → Node
  | .null => .null
  | .bool value => .bool value
  | .number n => .number n.render
  | .string text => .string (some text)
  | .array items => .array (toNodes items)
  | .object fields => .object (toNodeFields fields)

def toNodes : List Json → List Node
  | [] => []
  | item :: items => item.toNode :: toNodes items

def toNodeFields : List (String × Json) → List (Option String × Node)
  | [] => []
  | (key, value) :: fields => (some key, value.toNode) :: toNodeFields fields

end

mutual

def numbers : Json → List Number
  | .null | .bool _ | .string _ => []
  | .number n => [n]
  | .array items => numbersOfItems items
  | .object fields => numbersOfFields fields

def numbersOfItems : List Json → List Number
  | [] => []
  | item :: items => item.numbers ++ numbersOfItems items

def numbersOfFields : List (String × Json) → List Number
  | [] => []
  | (_, value) :: fields => value.numbers ++ numbersOfFields fields

end

theorem toNodes_eq (items : List Json) : toNodes items = items.map toNode := by
  induction items with
  | nil => rfl
  | cons item items ih => rw [toNodes, ih]; rfl

theorem toNodeFields_eq (fields : List (String × Json)) :
    toNodeFields fields = fields.map fun field => (some field.1, field.2.toNode) := by
  induction fields with
  | nil => rfl
  | cons field fields ih => rw [toNodeFields, ih]; rfl

theorem numbersOfItems_eq (items : List Json) : numbersOfItems items = items.flatMap numbers := by
  induction items with
  | nil => rfl
  | cons item items ih => rw [numbersOfItems, ih]; rfl

theorem numbersOfFields_eq (fields : List (String × Json)) :
    numbersOfFields fields = fields.flatMap (·.2.numbers) := by
  induction fields with
  | nil => rfl
  | cons field fields ih => rw [numbersOfFields, ih]; rfl

def isSpace (c : Char) : Bool := c = ' ' || c = '\n' || c = '\r' || c = '\t'

variable {blank s rest : List Char} {fuel : Nat}

theorem skipBlank_append (h : ∀ c ∈ blank, isSpace c = true) (s : List Char) :
    skipBlank (blank ++ s) = skipBlank s := List.dropWhile_append_of_pos h

theorem skipBlank_cons {c : Char} (h : isSpace c = false) (s : List Char) :
    skipBlank (c :: s) = c :: s := List.dropWhile_cons_of_neg (by simpa [isSpace] using h)

theorem newline_blank (level : Nat) : ∀ c ∈ newline level, isSpace c = true := by
  intro c hc
  rcases List.mem_cons.1 hc with rfl | hc
  · rfl
  · rw [List.eq_of_mem_replicate hc]
    rfl

theorem readNode_blank (h : ∀ c ∈ blank, isSpace c = true) (s : List Char) :
    readNode fuel (blank ++ s) = readNode fuel s := by
  cases fuel with
  | zero => rfl
  | succ fuel =>
    rw [readNode.eq_def, readNode.eq_def]
    dsimp only
    rw [skipBlank_append h]

theorem readItems_blank (h : ∀ c ∈ blank, isSpace c = true) (s : List Char) :
    readItems fuel (blank ++ s) = readItems fuel s := by
  cases fuel with
  | zero => rfl
  | succ fuel => rw [readItems, readItems, readNode_blank h]

theorem readFields_blank (h : ∀ c ∈ blank, isSpace c = true) (s : List Char) :
    readFields fuel (blank ++ s) = readFields fuel s := by
  cases fuel with
  | zero => rfl
  | succ fuel =>
    rw [readFields.eq_def, readFields.eq_def]
    dsimp only
    rw [skipBlank_append h]

theorem Numeral.head (h : Numeral s) :
    ∃ c t, s = c :: t ∧ (c = '-' ∨ Number.isDigit c = true) := by
  obtain ⟨negative, whole, -, -⟩ := h
  cases negative with
  | true => exact ⟨'-', _, rfl, .inl rfl⟩
  | false =>
    rcases whole with rfl | ⟨digits, c, t, rfl, -⟩
    · exact ⟨'0', _, rfl, .inr rfl⟩
    · exact ⟨c, _, rfl, .inr (digits c (by simp))⟩

theorem readNode_numeral (h : Numeral s) (stops : Without goesOn rest) :
    readNode (fuel + 1) (s ++ rest) = some (.number s, rest) := by
  obtain ⟨c, t, rfl, head⟩ := h.head
  have other (d : Char) (no : ¬(d = '-' ∨ Number.isDigit d = true)) : c ≠ d := by
    rintro rfl
    exact no head
  have ink : isSpace c = false := by
    simp [isSpace, other ' ' (by decide), other '\n' (by decide), other '\r' (by decide),
      other '\t' (by decide)]
  have read := h.read stops
  rw [List.cons_append] at read ⊢
  rw [readNode.eq_def]
  dsimp only
  rw [skipBlank_cons ink]
  split
  · exact absurd (List.cons.inj ‹_›).1 (other 'n' (by decide))
  · exact absurd (List.cons.inj ‹_›).1 (other 't' (by decide))
  · exact absurd (List.cons.inj ‹_›).1 (other 'f' (by decide))
  · exact absurd (List.cons.inj ‹_›).1 (other '"' (by decide))
  · exact absurd (List.cons.inj ‹_›).1 (other '[' (by decide))
  · exact absurd (List.cons.inj ‹_›).1 (other '\x7b' (by decide))
  · rw [read]
    rfl

theorem block_cons (level : Nat) (opening closing : Char) (member : List Char)
    (members : List (List Char)) : block level opening closing (member :: members) =
      opening :: (newline (level + 1) ++
        (joined (',' :: newline (level + 1)) (member :: members) ++
          (newline level ++ [closing]))) := by
  simp [block]

theorem block_head (level : Nat) (opening closing : Char) (members : List (List Char)) :
    ∃ t, block level opening closing members = opening :: t := by
  cases members with
  | nil => exact ⟨_, rfl⟩
  | cons member members => exact ⟨_, block_cons ..⟩

theorem prettyChars_head (level : Nat) (v : Json) :
    ∃ c t, v.prettyChars level = c :: t ∧ isSpace c = false ∧ c ≠ ']' := by
  cases v with
  | null => exact ⟨'n', _, rfl, rfl, by decide⟩
  | bool b => cases b with
    | true => exact ⟨'t', _, rfl, rfl, by decide⟩
    | false => exact ⟨'f', _, rfl, rfl, by decide⟩
  | number n =>
    obtain ⟨c, t, split, head⟩ := n.render_numeral.head
    refine ⟨c, t, split, ?_, ?_⟩
    · by_contra space
      simp only [isSpace, Bool.not_eq_false, Bool.or_eq_true, decide_eq_true_eq] at space
      rcases space with ((rfl | rfl) | rfl) | rfl <;> exact absurd head (by decide)
    · rintro rfl
      exact absurd head (by decide)
  | string text => exact ⟨'"', _, rfl, rfl, by decide⟩
  | array items =>
    obtain ⟨t, split⟩ := block_head level '[' ']' (prettyItems (level + 1) items)
    exact ⟨'[', t, split, rfl, by decide⟩
  | object fields =>
    obtain ⟨t, split⟩ := block_head level '\x7b' '\x7d' (prettyFields (level + 1) fields)
    exact ⟨'\x7b', t, split, rfl, by decide⟩

theorem without_newline (level : Nat) (s : List Char) : Without goesOn (newline level ++ s) := by
  rintro c ⟨⟩
  rfl

theorem joined_cons (separator s t : List Char) (rest : List (List Char)) :
    joined separator (s :: t :: rest) = s ++ (separator ++ joined separator (t :: rest)) := by
  simp [joined]

theorem joined_head (separator : List Char) (c : Char) (s : List Char) (rest : List (List Char)) :
    ∃ t, joined separator ((c :: s) :: rest) = c :: t := by
  cases rest with
  | nil => exact ⟨s, rfl⟩
  | cons t rest => exact ⟨_, joined_cons ..⟩

theorem readFields_field (key : String) {value rest : List Char} {node : Node}
    (read : readNode fuel (value ++ rest) = some (node, rest)) :
    readFields (fuel + 1) (quote key ++ ':' :: ' ' :: value ++ rest) =
      match skipBlank rest with
      | '\x7d' :: rest => some ([(some key, node)], rest)
      | ',' :: rest =>
        (readFields fuel rest).map fun (fields, rest) => ((some key, node) :: fields, rest)
      | _ => none := by
  have opened : quote key ++ ':' :: ' ' :: value ++ rest =
      '"' :: (key.toList.flatMap escapeChar ++ '"' :: (':' :: ([' '] ++ (value ++ rest)))) := by
    simp [quote]
  have space : ∀ c ∈ [' '], isSpace c = true := by simp [isSpace]
  rw [opened, readFields.eq_def]
  dsimp only
  rw [skipBlank_cons (by rfl)]
  simp only [readText_quote, Option.bind_eq_bind, Option.bind_some]
  rw [skipBlank_cons (by rfl)]
  simp only [readNode_blank space, read, Option.bind_some]
  generalize skipBlank rest = after
  split
  · rfl
  · rename_i after
    change _ = (readFields fuel after).map _
    cases readFields fuel after <;> rfl
  · simp_all

theorem readNode_array {c : Char} {t : List Char} (content : skipBlank s = c :: t)
    (more : c ≠ ']') : readNode (fuel + 1) ('[' :: s) =
      (readItems fuel (c :: t)).map fun (items, rest) => (.array items, rest) := by
  rw [readNode.eq_def]
  dsimp only
  rw [skipBlank_cons (by rfl)]
  simp only [content]
  split
  · exact absurd (List.cons.inj ‹_›).1 more
  · rfl

theorem readNode_object {c : Char} {t : List Char} (content : skipBlank s = c :: t)
    (more : c ≠ '\x7d') : readNode (fuel + 1) ('\x7b' :: s) =
      (readFields fuel (c :: t)).map fun (fields, rest) => (.object fields, rest) := by
  rw [readNode.eq_def]
  dsimp only
  rw [skipBlank_cons (by rfl)]
  simp only [content]
  split
  · exact absurd (List.cons.inj ‹_›).1 more
  · rfl

mutual

/-- A value is read to its end. Fuel for twice its text is enough: each item and each field takes a
    step besides those of its value, and there is a separator or an end for it. -/
theorem readNode_pretty (level : Nat) : (v : Json) → (fuel : Nat) → (rest : List Char) →
    2 * (v.prettyChars level).length ≤ fuel → Without goesOn rest →
      readNode fuel (v.prettyChars level ++ rest) = some (v.toNode, rest)
  | .null, fuel + 1, _, _, _ => rfl
  | .bool true, fuel + 1, _, _, _ => rfl
  | .bool false, fuel + 1, _, _, _ => rfl
  | .number n, fuel + 1, _, _, stops => readNode_numeral n.render_numeral stops
  | .string text, fuel + 1, rest, _, _ => by
    have opened : (Json.string text).prettyChars level ++ rest =
        '"' :: (text.toList.flatMap escapeChar ++ '"' :: rest) := by simp [prettyChars, quote]
    rw [opened, readNode.eq_def]
    dsimp only
    rw [skipBlank_cons (by rfl)]
    simp [readText_quote, toNode]
  | .array [], fuel + 1, _, _, _ => rfl
  | .array (item :: items), fuel + 1, rest, enough, _ => by
    obtain ⟨c, t, text, ink, more⟩ : ∃ c t, joined (',' :: newline (level + 1))
        (prettyItems (level + 1) (item :: items)) = c :: t ∧ isSpace c = false ∧ c ≠ ']' := by
      obtain ⟨c, s, first, ink, more⟩ := prettyChars_head (level + 1) item
      obtain ⟨t, text⟩ :=
        joined_head (',' :: newline (level + 1)) c s (prettyItems (level + 1) items)
      exact ⟨c, t, by rw [prettyItems, first, text], ink, more⟩
    have opened : (Json.array (item :: items)).prettyChars level =
        '[' :: (newline (level + 1) ++ (c :: t ++ (newline level ++ [']']))) := by
      rw [prettyChars, prettyItems, block_cons, ← prettyItems, text]
    rw [opened] at enough ⊢
    simp only [List.length_append, List.length_cons] at enough
    have read := readItems_pretty (level + 1) level (item :: items) (by simp) fuel rest
      (by rw [text, List.length_cons]; omega)
    rw [text] at read
    have content (s : List Char) : skipBlank (newline (level + 1) ++ (c :: s)) = c :: s := by
      rw [skipBlank_append (newline_blank _), skipBlank_cons ink]
    simp only [List.cons_append, List.append_assoc, List.nil_append] at read ⊢
    rw [readNode_array (content _) more, read]
    rfl
  | .object [], fuel + 1, _, _, _ => rfl
  | .object ((key, value) :: fields), fuel + 1, rest, enough, _ => by
    obtain ⟨t, text⟩ : ∃ t, joined (',' :: newline (level + 1))
        (prettyFields (level + 1) ((key, value) :: fields)) = '"' :: t := by
      rw [prettyFields, quote]
      exact joined_head ..
    have opened : (Json.object ((key, value) :: fields)).prettyChars level =
        '\x7b' :: (newline (level + 1) ++ ('"' :: t ++ (newline level ++ ['\x7d']))) := by
      rw [prettyChars, prettyFields, block_cons, ← prettyFields, text]
    rw [opened] at enough ⊢
    simp only [List.length_append, List.length_cons] at enough
    have read := readFields_pretty (level + 1) level ((key, value) :: fields) (by simp) fuel rest
      (by rw [text, List.length_cons]; omega)
    rw [text] at read
    have content (s : List Char) : skipBlank (newline (level + 1) ++ ('"' :: s)) = '"' :: s := by
      rw [skipBlank_append (newline_blank _), skipBlank_cons (by rfl)]
    simp only [List.cons_append, List.append_assoc, List.nil_append] at read ⊢
    rw [readNode_object (content _) (by decide), read]
    rfl
  | v, 0, _, enough, _ => by
    obtain ⟨c, t, split, -⟩ := prettyChars_head level v
    rw [split, List.length_cons] at enough
    omega

theorem readItems_pretty (level below : Nat) : (items : List Json) → items ≠ [] →
    (fuel : Nat) → (rest : List Char) →
      2 * (joined (',' :: newline level) (prettyItems level items)).length + 1 ≤ fuel →
        readItems fuel (joined (',' :: newline level) (prettyItems level items) ++
          (newline below ++ ']' :: rest)) = some (toNodes items, rest)
  | [], ne, _, _, _ => absurd rfl ne
  | [item], _, fuel + 1, rest, enough => by
    have read := readNode_pretty level item fuel _
      (Nat.le_of_succ_le_succ enough) (without_newline below (']' :: rest))
    rw [readItems, prettyItems, prettyItems, joined, read]
    simp [skipBlank_append (newline_blank below), skipBlank_cons, isSpace, toNodes]
  | item :: next :: items, _, fuel + 1, rest, enough => by
    rw [prettyItems, prettyItems, joined_cons, ← prettyItems] at enough ⊢
    simp only [List.length_append, List.length_cons] at enough
    have read := readNode_pretty level item fuel
      (',' :: (newline level ++ (joined (',' :: newline level)
        (prettyItems level (next :: items)) ++ (newline below ++ ']' :: rest)))) (by omega)
      (by rintro c ⟨⟩; rfl)
    have later := readItems_pretty level below (next :: items) (by simp) fuel rest (by omega)
    rw [readItems]
    simp only [List.append_assoc, List.cons_append, read]
    simp [skipBlank_cons, isSpace, readItems_blank (newline_blank level), later, toNodes]

theorem readFields_pretty (level below : Nat) : (fields : List (String × Json)) → fields ≠ [] →
    (fuel : Nat) → (rest : List Char) →
      2 * (joined (',' :: newline level) (prettyFields level fields)).length + 1 ≤ fuel →
        readFields fuel (joined (',' :: newline level) (prettyFields level fields) ++
          (newline below ++ '\x7d' :: rest)) = some (toNodeFields fields, rest)
  | [], ne, _, _, _ => absurd rfl ne
  | [(key, value)], _, fuel + 1, rest, enough => by
    rw [prettyFields, prettyFields, joined] at enough ⊢
    simp only [List.length_append, List.length_cons] at enough
    have read := readNode_pretty level value fuel _
      (by omega) (without_newline below ('\x7d' :: rest))
    rw [readFields_field key read, skipBlank_append (newline_blank below), skipBlank_cons (by rfl)]
    rfl
  | (key, value) :: (next, other) :: fields, _, fuel + 1, rest, enough => by
    rw [prettyFields, prettyFields, joined_cons, ← prettyFields] at enough ⊢
    simp only [List.length_append, List.length_cons] at enough
    have read := readNode_pretty level value fuel
      (',' :: (newline level ++ (joined (',' :: newline level)
        (prettyFields level ((next, other) :: fields)) ++ (newline below ++ '\x7d' :: rest))))
      (by omega) (by rintro c ⟨⟩; rfl)
    have later := readFields_pretty level below ((next, other) :: fields) (by simp) fuel rest
      (by omega)
    have step := readFields_field key read
    simp only [List.append_assoc, List.cons_append] at step ⊢
    rw [step, skipBlank_cons (by rfl)]
    simp [readFields_blank (newline_blank level), later, toNodeFields]

end

/-- The text of a value is the text of its tree, also with a line end behind it. -/
theorem Node.parse?_prettyChars (v : Json) {blank : List Char}
    (spaces : ∀ c ∈ blank, isSpace c = true) :
    Node.parse? (v.prettyChars 0 ++ blank) = some v.toNode := by
  have stops : Without goesOn blank := by
    intro c hc
    have space := spaces c (List.mem_of_mem_head? hc)
    simp only [isSpace, Bool.or_eq_true, decide_eq_true_eq] at space
    rcases space with ((rfl | rfl) | rfl) | rfl <;> rfl
  have rest : skipBlank blank = [] := List.dropWhile_eq_nil_iff.2 spaces
  rw [Node.parse?, readNode_pretty 0 v _ blank (by simp; omega) stops]
  simp [rest]

end DesignTokens.Json
