import DesignTokens.Path
import DesignTokens.Settings.Key
import DesignTokens.Text.Replace
import DesignTokens.Url.Parse

/-!
Settings: where tokens come from, where files go, and which generators run. Token and file id may be
absent as long as nothing is fetched.
-/

namespace DesignTokens

inductive GeneratorName where
  | scss
  | css
  deriving DecidableEq

def GeneratorName.text : GeneratorName → String
  | scss => "scss"
  | css => "css"

namespace Settings

structure Source where
  accessToken : Option String
  fileId : Option String
  template : String
  placeholder : String
  seconds : Nat
  deriving DecidableEq

structure Outputs where
  variablesFile : Path
  cssFile : Path
  scssDirectory : Path
  tailwindDirectory : Path
  deriving DecidableEq

end Settings

structure Settings where
  source : Settings.Source
  outputs : Settings.Outputs
  generators : List GeneratorName
  scssDefault : Bool
  deriving DecidableEq

namespace Settings

structure Credentials where
  accessToken : String
  fileId : String
  deriving DecidableEq

def required (key : Key) : Option String → Except Error String
  | none => .error (.missing key)
  | some value => .ok value

namespace Source

def credentials (s : Source) : Except Error Credentials := do
  let accessToken ← required .accessToken s.accessToken
  let fileId ← required .fileId s.fileId
  return ⟨accessToken, fileId⟩

def endpoint (s : Source) : Except Error Url := do
  let fileId ← required .fileId s.fileId
  let text := Text.substitute s.placeholder fileId s.template
  match Url.parse? text with
  | some url => .ok url
  | none => .error (.invalid .apiUrl (some text) .noUrl)

end Source

end Settings

end DesignTokens
