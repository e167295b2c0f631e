import DesignTokens.Number.Decimal
import DesignTokens.Settings.Basic
import DesignTokens.Text.Blank
import DesignTokens.Text.LowerCase

/-!
Loading settings from the environment, and overriding them. A blank variable is as good as none.
-/

namespace DesignTokens

namespace GeneratorName

def parse (value : String) : Except Settings.Error GeneratorName :=
  let name := String.ofList (Text.lower (Text.trim value.toList))
  if name = "scss" then .ok scss
  else if name = "css" then .ok css
  else .error (.invalid .generators (some value) .unknownGenerator)

end GeneratorName

namespace Settings

def checkedPath (key : Key) (path : Path) : Except Error Path :=
  if path.text = "" then .error (.invalid key none .emptyPath) else .ok path

def parsePath (key : Key) (value : String) : Except Error Path :=
  checkedPath key ⟨Text.stripped value⟩

def parseBool (key : Key) (value : String) : Except Error Bool :=
  let word := String.ofList (Text.lower (Text.trim value.toList))
  if ["true", "1", "yes", "on"].contains word then .ok true
  else if ["false", "0", "no", "off"].contains word then .ok false
  else .error (.invalid key (some value) .noBoolean)

def whole? (s : List Char) : Option Nat :=
  let digits := match s with
    | '+' :: rest => rest
    | s => s
  if digits.isEmpty || !digits.all Number.isDigit then none
  else
    let n := Number.natOfDigits digits
    if n < 0x10000000000000000 then some n else none

def parseSeconds (key : Key) (value : String) : Except Error Nat :=
  match whole? (Text.trim value.toList) with
  | none | some 0 => .error (.invalid key (some value) .noDuration)
  | some n => .ok n

/-- The members of a list that differ from all before them. -/
def distinct (names : List GeneratorName) : List GeneratorName :=
  names.foldl (fun seen name => if seen.contains name then seen else seen ++ [name]) []

/-- Names between commas, each once. Blanks between commas are no names. -/
def parseGenerators (key : Key) (value : String) : Except Error (List GeneratorName) := do
  let parts := (value.toList.splitOn ',').map Text.trim
  let names ← (parts.filter (· ≠ [])).mapM fun part => GeneratorName.parse (.ofList part)
  if names = [] then .error (.invalid key (some value) .noGenerator) else .ok (distinct names)

def checkPlaceholder (key : Key) (template placeholder : String) : Except Error Unit :=
  if placeholder = "" ∨ !Text.contains placeholder.toList template.toList then
    .error (.invalid key (some template) .noPlaceholder)
  else .ok ()

def value? (lookup : String → Option String) (key : Key) : Option String :=
  (lookup key.name).filter (!Text.allBlank ·)

def loadSource (get : Key → Option String) : Except Error Source := do
  let template :=
    (get .apiUrl).getD "https://api.figma.com/v1/files/\x7b\x7bfileId\x7d\x7d/variables/local"
  let placeholder := (get .placeholder).getD "\x7b\x7bfileId\x7d\x7d"
  checkPlaceholder .apiUrl template placeholder
  let seconds ← match get .timeout with
    | some value => parseSeconds .timeout value
    | none => .ok 30
  return ⟨(get .accessToken).map Text.stripped, (get .fileId).map Text.stripped, template,
    placeholder, seconds⟩

def loadOutputs (get : Key → Option String) : Except Error Outputs := do
  let path (key : Key) (default : String) := parsePath key ((get key).getD default)
  return ⟨← path .variablesFile "tokens/variables.json", ← path .cssFile "styles/variables.css",
    ← path .scssDirectory "styles/scss", ← path .tailwindDirectory "styles/tailwind"⟩

def load (lookup : String → Option String) : Except Error Settings := do
  let get := value? lookup
  let source ← loadSource get
  let outputs ← loadOutputs get
  let scssDefault ← match get .scssDefault with
    | some value => parseBool .scssDefault value
    | none => .ok true
  let generators ← parseGenerators .generators ((get .generators).getD "scss,css")
  return ⟨source, outputs, generators, scssDefault⟩

structure Overrides where
  variablesFile : Option Path
  cssFile : Option Path
  scssDirectory : Option Path
  tailwindDirectory : Option Path
  generators : Option (List GeneratorName)
  scssDefault : Option Bool
  deriving DecidableEq

def replaced {α : Type} (check : α → Except Error α) (old : α) : Option α → Except Error α
  | none => .ok old
  | some new => check new

def checkedGenerators (names : List GeneratorName) : Except Error (List GeneratorName) :=
  if names = [] then .error (.invalid .generators none .noGenerator) else .ok names

def Outputs.override (outputs : Outputs) (o : Overrides) : Except Error Outputs := do
  let path (key : Key) := replaced (checkedPath key)
  return ⟨← path .variablesFile outputs.variablesFile o.variablesFile,
    ← path .cssFile outputs.cssFile o.cssFile,
    ← path .scssDirectory outputs.scssDirectory o.scssDirectory,
    ← path .tailwindDirectory outputs.tailwindDirectory o.tailwindDirectory⟩

def override (s : Settings) (o : Overrides) : Except Error Settings := do
  let outputs ← s.outputs.override o
  let generators ← replaced checkedGenerators s.generators o.generators
  return ⟨s.source, outputs, generators, o.scssDefault.getD s.scssDefault⟩

end Settings

end DesignTokens
