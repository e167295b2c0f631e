import DesignTokens.Artifact
import DesignTokens.Theme.Layout

namespace DesignTokens.Assembly

def artifacts (a : Assembly) (directory : Path) : List Artifact :=
  let sheet (name contents : String) : Artifact := ⟨directory.join ⟨name⟩, .css, contents⟩
  [sheet "theme.css" a.block.render, sheet "variables.css" a.variantSheet] ++
    (a.missing?.map (sheet "missing-variables.css")).toList

end DesignTokens.Assembly
