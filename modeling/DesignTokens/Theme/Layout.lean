import DesignTokens.Theme.Block
import DesignTokens.Theme.Mapping

/-!
How the properties of a flat stylesheet are laid out as a theme. The variants of the theme claim
their colours first, then the sections claim theirs; what no one claims is left over.
-/

namespace DesignTokens

/-- Colours of one variant of a theme. Their names lose the part that `strip` matches and get the
    stem `scope`, which is the same in all variants; pointers to them go into the targets. -/
structure ColorGroup where
  select : Matcher
  strip : Matcher
  scope : String
  pointerStrip : Matcher
  pointerTargets : List Namespace

structure Variant where
  name : String
  groups : List ColorGroup

inductive SectionPlan where
  | mapped (mapping : Mapping)
  | copied (name source : String) (old new : Namespace)

def SectionPlan.name : SectionPlan → String
  | mapped mapping => mapping.name
  | copied name .. => name

structure Layout where
  variants : List Variant
  ignored : List Matcher
  sections : List SectionPlan
  resets : List Namespace

namespace ColorGroup

def inScope (group : ColorGroup) (ds : List Declaration) : List Declaration :=
  ds.map (·.replaceStem group.strip group.scope)

def pointers (group : ColorGroup) (ds : List Declaration) : List Declaration :=
  DesignTokens.pointers ds group.pointerStrip group.pointerTargets

end ColorGroup

namespace Variant

/-- What each group of the variant makes of the declarations it claims, and those that none
    claims. -/
def run (v : Variant) (pool : List Declaration) :
    List (ColorGroup × List Declaration) × List Declaration :=
  let (shares, left) := claimAll (v.groups.map ColorGroup.select) pool
  ((v.groups.zip shares).map fun (group, share) => (group, group.inScope share), left)

end Variant

def runVariants : List Variant → List Declaration →
    List (List (ColorGroup × List Declaration)) × List Declaration
  | [], pool => ([], pool)
  | v :: vs, pool =>
    let (groups, left) := v.run pool
    let (others, left) := runVariants vs left
    (groups :: others, left)

def copySection (built : List Section) (name source : String) (old new : Namespace) :
    Except ThemeError Section :=
  match built.find? (·.name = source) with
  | none => .error (.unknownSection source)
  | some found =>
    .ok ⟨name, found.items.map (·.replaceStem (.literal old.stem) new.stem)⟩

def buildSections (built : List Section) (pool : List Declaration) :
    List SectionPlan → Except ThemeError (List Section × List Declaration)
  | [] => .ok (built, pool)
  | .mapped mapping :: plans =>
    let (made, left) := mapping.run pool
    buildSections (built ++ [made]) left plans
  | .copied name source old new :: plans => do
    let made ← copySection built name source old new
    buildSections (built ++ [made]) pool plans

structure Assembly where
  resets : List Namespace
  pointers : List Declaration
  variants : List VariantBlock
  sections : List Section
  unbound : List Declaration
  deriving DecidableEq

namespace Layout

/-- Lays declarations out. The pointers are those to the first variant; all variants have to declare
    the same names. -/
def assemble (layout : Layout) (ds : List Declaration) : Except ThemeError Assembly := do
  let (_, pool) := claimAll layout.ignored ds
  let (colors, pool) := runVariants layout.variants pool
  let blocks := (layout.variants.zip colors).map fun (v, groups) =>
    ⟨v.name, groups.flatMap Prod.snd⟩
  checkUniform blocks
  let pointers := (colors.head?.getD []).flatMap fun (group, items) => group.pointers items
  let (sections, unbound) ← buildSections [] pool layout.sections
  return ⟨layout.resets, pointers, blocks, sections, unbound⟩

end Layout

namespace Assembly

def block (a : Assembly) : ThemeBlock := ⟨a.resets.map Namespace.reset, a.pointers, a.sections⟩

def variantSheet (a : Assembly) : String :=
  "\n".intercalate (a.variants.map fun v => inRoot v.render)

def missing? (a : Assembly) : Option String :=
  if a.unbound = [] then none else some (inRoot (renderLines a.unbound))

end Assembly

end DesignTokens
