import DesignTokens.Number.Decimal
import DesignTokens.Pattern.Regex

/-!
The written form of regular expressions: characters, classes in brackets, `\d`, `\w` and `\s`, the
ends of the text, groups, alternatives, and repetition. Classes hold members, ranges and other
classes, and there are operations between them. Whatever is left open, repeats nothing, has its
bounds the wrong way round, is nested too deep or is too large is no pattern.
-/

namespace DesignTokens.Regex

def anyChar : CharSet := .complement (.single '\n')

def letterSet? : Char → Option CharSet
  | 'd' => some .digit
  | 'w' => some .word
  | 's' => some .blank
  | 'D' => some (.complement .digit)
  | 'W' => some (.complement .word)
  | 'S' => some (.complement .blank)
  | _ => none

def escaped? (c : Char) : Option Char :=
  match c with
  | 'n' => some '\n'
  | 't' => some '\t'
  | 'r' => some '\r'
  | 'f' => some '\x0c'
  | 'v' => some '\x0b'
  | 'a' => some '\x07'
  | c =>
    if c.toNat < 128 && !c.isAlphanum && c ≠ '<' && c ≠ '>' then some c else none

def classItem? : List Char → Option (CharSet × List Char)
  | '\\' :: c :: rest =>
    match letterSet? c, escaped? c with
    | some set, _ => some (set, rest)
    | none, some c => some (.single c, rest)
    | none, none => none
  | ['\\'] => none
  | c :: rest => some (.single c, rest)
  | [] => none

def classMember? (s : List Char) : Option (CharSet × List Char) := do
  let (first, rest) ← classItem? s
  match rest with
  | '-' :: rest' =>
    if rest'.head? = some ']' ∨ rest'.head? = some '-' then return (first, rest)
    else
      let (last, rest) ← classItem? rest'
      match first, last with
      | .single a, .single b => if a ≤ b then return (.range a b, rest) else none
      | _, _ => none
  | _ => return (first, rest)

def namedSets : List (String × CharSet) :=
  let decimal := CharSet.range '0' '9'
  let lower := CharSet.range 'a' 'z'
  let upper := CharSet.range 'A' 'Z'
  let alpha := lower.union upper
  let punct := CharSet.ofText "!\"#$%&'()*+,-./:;<=>?@[\\]^_`\x7b|\x7d~"
  let graph := CharSet.range '!' '~'
  [("alnum", decimal.union alpha), ("alpha", alpha), ("ascii", .range '\x00' '\x7f'),
   ("blank", .ofText "\t "), ("cntrl", (CharSet.range '\x00' '\x1f').union (.single '\x7f')),
   ("digit", decimal), ("graph", graph), ("lower", lower), ("print", .range ' ' '~'),
   ("punct", punct), ("space", (CharSet.range '\t' '\r').union (.single ' ')), ("upper", upper),
   ("word", (decimal.union alpha).union (.single '_')),
   ("xdigit", decimal.union ((CharSet.range 'a' 'f').union (.range 'A' 'F')))]

def namedClass? : List Char → Option (CharSet × List Char)
  | ':' :: s =>
    let (negated, s) :=
      match s with
      | '^' :: rest => (true, rest)
      | _ => (false, s)
    match namedSets.lookup (.ofList (s.takeWhile (· ≠ ':'))), s.dropWhile (· ≠ ':') with
    | some set, ':' :: ']' :: rest => some (if negated then .complement set else set, rest)
    | _, _ => none
  | _ => none

def operation? : Char → Option (CharSet → CharSet → CharSet)
  | '&' => some .intersection
  | '-' => some .difference
  | '~' => some .symmetricDifference
  | _ => none

mutual

/-- A class whose opening bracket has been read. Dashes that come first are members, and so is a
    closing bracket that does. -/
def class? : Nat → List Char → Option (CharSet × List Char)
  | 0, _ => none
  | fuel + 1, s => do
    let (negated, s) :=
      match s with
      | '^' :: rest => (true, rest)
      | _ => (false, s)
    let (first, rest) :=
      match s with
      | '-' :: _ => (CharSet.single '-', s.dropWhile (· = '-'))
      | ']' :: rest => (.single ']', rest)
      | _ => (.nothing, s)
    let (set, rest) ← classRest? fuel id first rest
    return (if negated then .complement set else set, rest)

def classRest? : Nat → (CharSet → CharSet) → CharSet → List Char → Option (CharSet × List Char)
  | 0, _, _, _ => none
  | fuel + 1, finish, set, s =>
    match s with
    | [] => none
    | ']' :: rest => some (finish set, rest)
    | '[' :: rest => do
      let (inner, rest) ← (namedClass? rest).or (class? fuel rest)
      classRest? fuel finish (.union set inner) rest
    | c :: rest =>
      match (if rest.head? = some c then operation? c else none) with
      | some operation => classRest? fuel (operation (finish set)) .nothing rest.tail
      | none => do
        let (member, rest) ← classMember? s
        classRest? fuel finish (.union set member) rest

end

def escape? (c : Char) : Option Regex :=
  match c with
  | 'A' => some .atStart
  | 'z' => some .atEnd
  | c =>
    match letterSet? c, escaped? c with
    | some set, _ => some (.one set)
    | none, some c => some (.one (.single c))
    | none, none => none

def greed : List Char → Bool × List Char
  | '?' :: rest => (false, rest)
  | rest => (true, rest)

def count? (s : List Char) : Option (Nat × List Char) :=
  let s := s.dropWhile Text.isBlank
  let digits := s.takeWhile Number.isDigit
  let n := Number.natOfDigits digits
  if digits.isEmpty ∨ 4294967295 < n then none
  else some (n, (s.dropWhile Number.isDigit).dropWhile Text.isBlank)

def bounds? (s : List Char) : Option (Nat × Option Nat × List Char) := do
  let (least, rest) ← count? s
  match rest with
  | '\x7d' :: rest => return (least, some least, rest)
  | ',' :: '\x7d' :: rest => return (least, none, rest)
  | ',' :: rest =>
    let (most, rest) ← count? rest
    match rest with
    | '\x7d' :: rest => if least ≤ most then return (least, some most, rest) else none
    | _ => none
  | _ => none

def repeated? : Nat → Regex → List Char → Option (Regex × List Char)
  | 0, _, _ => none
  | fuel + 1, r, s =>
    let again (least : Nat) (most : Option Nat) (rest : List Char) :=
      let (greedy, rest) := greed rest
      repeated? fuel (.repeated r least most greedy) rest
    match s with
    | '?' :: rest => again 0 (some 1) rest
    | '*' :: rest => again 0 none rest
    | '+' :: rest => again 1 none rest
    | '\x7b' :: rest => do
      let (least, most, rest) ← bounds? rest
      again least most rest
    | _ => some (r, s)

def isNameStart (c : Char) : Bool := c.isAlpha || c = '_'

def isNamePart (c : Char) : Bool := c.isAlphanum || c = '_' || c = '.' || c = '[' || c = ']'

def groupName? (s : List Char) : Option (List Char) :=
  match s.takeWhile isNamePart, s.dropWhile isNamePart with
  | c :: _, '>' :: rest => if isNameStart c then some rest else none
  | _, _ => none

/-- Skips what follows the opening of a group and is not part of its expression, and says whether
    the group is captured. -/
def groupStart? : List Char → Option (Bool × List Char)
  | '?' :: ':' :: rest => some (false, rest)
  | '?' :: 'P' :: '<' :: rest => (groupName? rest).map (true, ·)
  | '?' :: '<' :: rest => (groupName? rest).map (true, ·)
  | '?' :: _ => none
  | s => some (true, s)

mutual

def alternatives? : Nat → List Regex → List Char → Option (Regex × List Char)
  | 0, _, _ => none
  | fuel + 1, before, s => do
    let (r, rest) ← sequence? fuel [] s
    match rest with
    | '|' :: rest => alternatives? fuel (before ++ [r]) rest
    | _ => return (any (before ++ [r]), rest)

def sequence? : Nat → List Regex → List Char → Option (Regex × List Char)
  | 0, _, _ => none
  | fuel + 1, before, s =>
    match s with
    | [] => some (all before, [])
    | '|' :: _ | ')' :: _ => some (all before, s)
    | c :: rest => do
      let (r, rest) ← single? fuel c rest
      let (r, rest) ← repeated? (rest.length + 1) r rest
      sequence? fuel (before ++ [r]) rest

/-- A single expression that begins with the character `c`. A captured group is labelled by what
    is left behind its opening. -/
def single? : Nat → Char → List Char → Option (Regex × List Char)
  | 0, _, _ => none
  | fuel + 1, c, rest =>
    match c with
    | '(' => do
      let (captured, inner) ← groupStart? rest
      let (r, after) ← alternatives? fuel [] inner
      match after with
      | ')' :: after => return (.group (if captured then some rest.length else none) r, after)
      | _ => none
    | '[' => (class? (2 * rest.length + 2) rest).map fun (set, rest) => (.one set, rest)
    | '\\' =>
      match rest with
      | [] => none
      | e :: rest => (escape? e).map (·, rest)
    | '.' => some (.one anyChar, rest)
    | '^' => some (.atStart, rest)
    | '$' => some (.atEnd, rest)
    | '?' | '*' | '+' | '\x7b' => none
    | c => some (.one (.single c), rest)

end

def depthLimit : Nat := 250

/-- How large the expression of a pattern may be with its repetitions written out. -/
def sizeLimit : Nat := 262144

/-- The normal form of the expression that a text writes. -/
def parse? (pattern : String) : Option Regex :=
  let s := pattern.toList
  match alternatives? (3 * s.length + 3) [] s with
  | some (r, []) =>
    if r.depth ≤ depthLimit ∧ r.normal.size ≤ sizeLimit then some r.normal else none
  | _ => none

def isSpecial (c : Char) : Bool :=
  "\\.+*?()|[]\x7b\x7d^$#&-~".toList.contains c

def escape (text : String) : String :=
  .ofList (text.toList.flatMap fun c => if isSpecial c then ['\\', c] else [c])

end DesignTokens.Regex
