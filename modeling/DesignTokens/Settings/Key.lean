namespace DesignTokens.Settings

inductive Key where
  | accessToken
  | fileId
  | apiUrl
  | placeholder
  | variablesFile
  | cssFile
  | scssDirectory
  | tailwindDirectory
  | scssDefault
  | generators
  | timeout
  deriving DecidableEq

namespace Key

def name : Key → String
  | accessToken => "FIGMA_ACCESS_TOKEN"
  | fileId => "FIGMA_FILE_ID"
  | apiUrl => "FIGMA_VARIABLE_API_URL"
  | placeholder => "FIGMA_FILE_ID_PLACEHOLDER"
  | variablesFile => "VARIABLE_OUTPUT_FILE"
  | cssFile => "CSS_OUTPUT_FILE"
  | scssDirectory => "SCSS_OUTPUT_DIR"
  | tailwindDirectory => "TAILWIND_OUTPUT_DIR"
  | scssDefault => "TOKENPRESS_SCSS_DEFAULT"
  | generators => "TOKENPRESS_GENERATORS"
  | timeout => "TOKENPRESS_HTTP_TIMEOUT_SECS"

theorem name_injective {a b : Key} (h : a.name = b.name) : a = b := by
  revert h; cases a <;> cases b <;> decide

end Key

inductive Reason where
  | noPlaceholder
  | noDuration
  | emptyPath
  | noBoolean
  | unknownGenerator
  | noGenerator
  | noUrl
  deriving DecidableEq

def Reason.text : Reason → String
  | noPlaceholder => "template does not contain the file id placeholder"
  | noDuration => "must be a positive number of seconds"
  | emptyPath => "path must not be empty"
  | noBoolean => "must be a boolean"
  | unknownGenerator => "unknown generator"
  | noGenerator => "at least one generator is required"
  | noUrl => "not a valid URL"

inductive Error where
  | missing (key : Key)
  | invalid (key : Key) (value : Option String) (reason : Reason)
  deriving DecidableEq

namespace Error

def message : Error → String
  | missing _ => "required configuration value missing"
  | invalid .. => "invalid configuration field"

def advice : Error → String
  | missing key => key.name ++ " must be set"
  | invalid key (some value) reason =>
    "invalid " ++ key.name ++ " '" ++ value ++ "': " ++ reason.text
  | invalid key none reason => "invalid " ++ key.name ++ ": " ++ reason.text

end Error

end DesignTokens.Settings
