import DesignTokens.Settings.Basic
import DesignTokens.Text.Quoted

namespace DesignTokens.Settings

def redacted : String := Text.quoted false "<redacted>"

def showOption (show' : String → String) : Option String → String
  | none => "None"
  | some value => "Some(" ++ show' value ++ ")"

def showFields (name : String) (fields : List (String × String)) : String :=
  name ++ " \x7b " ++ ", ".intercalate (fields.map fun (field, value) => field ++ ": " ++ value) ++
    " \x7d"

def showText (s : String) : String := Text.quoted false s

def showPath (p : Path) : String := Text.quoted true p.text

def Source.render (s : Source) : String :=
  showFields "SourceConfig"
    [("access_token", showOption (fun _ => redacted) s.accessToken),
     ("file_id", showOption showText s.fileId), ("url_template", showText s.template),
     ("file_id_placeholder", showText s.placeholder), ("timeout", toString s.seconds ++ "s")]

def Credentials.render (c : Credentials) : String :=
  showFields "FetchCredentials" [("access_token", redacted), ("file_id", showText c.fileId)]

def Outputs.render (o : Outputs) : String :=
  showFields "OutputPaths"
    [("variables_file", showPath o.variablesFile), ("css_file", showPath o.cssFile),
     ("scss_dir", showPath o.scssDirectory), ("tailwind_dir", showPath o.tailwindDirectory)]

def showGenerator : GeneratorName → String
  | .scss => "Scss"
  | .css => "Css"

def showGeneration (generators : List GeneratorName) (scssDefault : Bool) : String :=
  showFields "GenerationConfig"
    [("generators", "[" ++ ", ".intercalate (generators.map showGenerator) ++ "]"),
     ("scss_default", if scssDefault then "true" else "false")]

def render (s : Settings) : String :=
  showFields "PipelineConfig"
    [("source", s.source.render), ("outputs", s.outputs.render),
     ("generation", showGeneration s.generators s.scssDefault)]

end DesignTokens.Settings
