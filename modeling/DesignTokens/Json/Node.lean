import DesignTokens.Number.Decimal
import DesignTokens.Number.Hex

/-!
JSON texts as trees. A tree keeps what a reader may still refuse: numerals of any size, strings
whose escapes pair to no character, and objects with a field twice.
-/

namespace DesignTokens.Json

/-- A string is `none` if one of its escapes is half of a character. -/
inductive Node where
  | null
  | bool (value : Bool)
  | number (numeral : List Char)
  | string (text : Option String)
  | array (items : List Node)
  | object (fields : List (Option String × Node))

inductive Piece where
  | char (c : Char)
  | unit (code : Nat)

def skipBlank (s : List Char) : List Char :=
  s.dropWhile fun c => c = ' ' || c = '\n' || c = '\r' || c = '\t'

def hexCode? (a b c d : Char) : Option Nat :=
  [a, b, c, d].foldlM (fun code c => (Number.hexValue? c).map (16 * code + ·)) 0

def shortEscape? : Char → Option Char
  | '"' => some '"'
  | '\\' => some '\\'
  | '/' => some '/'
  | 'b' => some '\x08'
  | 'f' => some '\x0c'
  | 'n' => some '\n'
  | 'r' => some '\r'
  | 't' => some '\t'
  | _ => none

def readPieces : List Char → Option (List Piece × List Char)
  | [] => none
  | '"' :: rest => some ([], rest)
  | '\\' :: 'u' :: a :: b :: c :: d :: rest => do
    let code ← hexCode? a b c d
    let (pieces, after) ← readPieces rest
    return (.unit code :: pieces, after)
  | '\\' :: e :: rest => do
    let c ← shortEscape? e
    let (pieces, after) ← readPieces rest
    return (.char c :: pieces, after)
  | c :: rest =>
    if c.toNat < 32 then none
    else do
      let (pieces, after) ← readPieces rest
      return (.char c :: pieces, after)

def isLead (code : Nat) : Bool := 0xd800 ≤ code && code < 0xdc00

def isTrail (code : Nat) : Bool := 0xdc00 ≤ code && code < 0xe000

/-- The characters of the pieces. Above the first plane two escapes make one character. -/
def joinPieces : List Piece → Option (List Char)
  | [] => some []
  | .char c :: rest => (joinPieces rest).map (c :: ·)
  | .unit lead :: .unit trail :: rest =>
    if isLead lead && isTrail trail then
      (joinPieces rest).map
        (.ofNat (0x10000 + (lead - 0xd800) * 0x400 + (trail - 0xdc00)) :: ·)
    else if isLead lead || isTrail lead then none
    else (joinPieces (.unit trail :: rest)).map (.ofNat lead :: ·)
  | .unit code :: rest =>
    if isLead code || isTrail code then none else (joinPieces rest).map (.ofNat code :: ·)

def readText (s : List Char) : Option (Option String × List Char) := do
  let (pieces, rest) ← readPieces s
  return ((joinPieces pieces).map .ofList, rest)

def takeDigits (s : List Char) : Option (List Char × List Char) :=
  let digits := s.takeWhile Number.isDigit
  if digits.isEmpty then none else some (digits, s.dropWhile Number.isDigit)

/-- A numeral: no plus sign in front, no zero before other digits, digits on both sides of a
    point. -/
def readNumeral (s : List Char) : Option (List Char × List Char) := do
  let (minus, rest) :=
    match s with
    | '-' :: rest => (['-'], rest)
    | _ => ([], s)
  let (whole, rest) ←
    match rest with
    | '0' :: rest => some (['0'], rest)
    | _ => takeDigits rest
  let (fraction, rest) ←
    match rest with
    | '.' :: rest => (takeDigits rest).map fun (digits, rest) => ('.' :: digits, rest)
    | _ => some ([], rest)
  let (exponent, rest) ←
    match rest with
    | e :: rest' =>
      if e = 'e' || e = 'E' then
        let (sign, rest) := Number.takeSign rest'
        (takeDigits rest).map fun (digits, rest) => (e :: sign ++ digits, rest)
      else some ([], rest)
    | [] => some ([], [])
  return (minus ++ whole ++ fraction ++ exponent, rest)

mutual

/-- A value and what follows it. Every call uses a step of `fuel`; a text of `n` characters needs at
    most `2 * n` of them. -/
def readNode : Nat → List Char → Option (Node × List Char)
  | 0, _ => none
  | fuel + 1, s =>
    match skipBlank s with
    | 'n' :: 'u' :: 'l' :: 'l' :: rest => some (.null, rest)
    | 't' :: 'r' :: 'u' :: 'e' :: rest => some (.bool true, rest)
    | 'f' :: 'a' :: 'l' :: 's' :: 'e' :: rest => some (.bool false, rest)
    | '"' :: rest => (readText rest).map fun (text, rest) => (.string text, rest)
    | '[' :: rest =>
      match skipBlank rest with
      | ']' :: rest => some (.array [], rest)
      | rest => (readItems fuel rest).map fun (items, rest) => (.array items, rest)
    | '\x7b' :: rest =>
      match skipBlank rest with
      | '\x7d' :: rest => some (.object [], rest)
      | rest => (readFields fuel rest).map fun (fields, rest) => (.object fields, rest)
    | rest => (readNumeral rest).map fun (numeral, rest) => (.number numeral, rest)

def readItems : Nat → List Char → Option (List Node × List Char)
  | 0, _ => none
  | fuel + 1, s => do
    let (item, rest) ← readNode fuel s
    match skipBlank rest with
    | ']' :: rest => return ([item], rest)
    | ',' :: rest =>
      let (items, rest) ← readItems fuel rest
      return (item :: items, rest)
    | _ => none

def readFields : Nat → List Char → Option (List (Option String × Node) × List Char)
  | 0, _ => none
  | fuel + 1, s =>
    match skipBlank s with
    | '"' :: rest => do
      let (key, rest) ← readText rest
      match skipBlank rest with
      | ':' :: rest =>
        let (value, rest) ← readNode fuel rest
        match skipBlank rest with
        | '\x7d' :: rest => return ([(key, value)], rest)
        | ',' :: rest =>
          let (fields, rest) ← readFields fuel rest
          return ((key, value) :: fields, rest)
        | _ => none
      | _ => none
    | _ => none

end

def Node.parse? (s : List Char) : Option Node :=
  match readNode (2 * s.length + 1) s with
  | some (node, rest) => if (skipBlank rest).isEmpty then some node else none
  | none => none

end DesignTokens.Json
