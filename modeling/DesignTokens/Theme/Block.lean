import DesignTokens.Theme.Section

namespace DesignTokens

structure VariantBlock where
  name : String
  items : List Declaration
  deriving DecidableEq

def inBlock (selector content : String) : String := selector ++ " \x7b\n" ++ content ++ "\n\x7d"

def inRoot (content : String) : String := inBlock ":root" content

def VariantBlock.render (v : VariantBlock) : String :=
  inBlock ("[data-theme='" ++ v.name ++ "']") (renderLines v.items)

namespace VariantBlock

def declares (v : VariantBlock) (name : String) : Bool := v.items.any (·.name = name)

def issues (first v : VariantBlock) : List Issue :=
  let missing := first.items.filter fun d => !v.declares d.name
  let extra := v.items.filter fun d => !first.declares d.name
  missing.map (fun d => .missing d.name v.name) ++ extra.map (fun d => .extra d.name v.name)

end VariantBlock

def differences : List VariantBlock → List Issue
  | [] => []
  | first :: others => others.flatMap (first.issues ·)

def checkUniform (variants : List VariantBlock) : Except ThemeError Unit :=
  match differences variants with
  | [] => .ok ()
  | issues => .error (.mismatch issues)

structure ThemeBlock where
  resets : List String
  items : List Declaration
  sections : List Section
  deriving DecidableEq

namespace ThemeBlock

def line (text : String) : String := text ++ "\n"

def lines (ds : List Declaration) : String := String.join (ds.map fun d => line d.render)

def titled (s : Section) : String := "\n" ++ line ("/*## " ++ s.name ++ " ##*/") ++ lines s.items

def render (t : ThemeBlock) : String :=
  "@theme inline \x7b\n" ++ String.join (t.resets.map line) ++ lines t.items ++
    String.join (t.sections.map titled) ++ "\x7d"

end ThemeBlock

end DesignTokens
