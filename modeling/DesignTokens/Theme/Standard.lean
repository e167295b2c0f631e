import DesignTokens.Theme.Layout

/-!
The standard layout: light and dark colours, type, borders and spacing, chosen by the stems under
which the tokens are exported. Patterns are given as they are written and as the expressions they
stand for.
-/

namespace DesignTokens.Standard

def themes : List String := ["light", "dark"]

def screenSpacing : Matcher :=
  .pattern "^--spacing-[\\w]+-[\\d]+"
    (.all (.atStart :: Regex.chars "--spacing-" ++ .plus (.one .word) :: Regex.chars "-" ++
      [.plus (.one .digit)]))

def ignored : List Matcher := [.literal "--unit", screenSpacing]

def maybeText : Regex := .optional (.all (Regex.chars "text"))

/-- The stem of the text colours of a variant; that of its icons lacks the last word. -/
def textStem (theme : String) : Matcher :=
  .pattern ("^--semantic-color-" ++ Regex.escape theme ++ "-(text)?")
    (.all (.atStart :: Regex.chars ("--semantic-color-" ++ theme ++ "-") ++ [maybeText]))

def scopedTextStem : Matcher :=
  .pattern "^--semantic-color-(text)?"
    (.all (.atStart :: Regex.chars "--semantic-color-" ++ [maybeText]))

def colorGroups (theme : String) : List ColorGroup :=
  let stem := "--semantic-color-" ++ theme
  [⟨.literal (stem ++ "-background"), .literal (stem ++ "-background"),
     "--semantic-color-background", .literal "--semantic-color-background", [.backgroundColor]⟩,
   ⟨.oneOf [.literal (stem ++ "-text"), .literal (stem ++ "-icon")], textStem theme,
     "--semantic-color-text", scopedTextStem, [.textColor]⟩,
   ⟨.literal (stem ++ "-border"), .literal (stem ++ "-border"),
     "--semantic-color-border", .literal "--semantic-color-border", [.borderColor, .ringColor]⟩,
   ⟨.literal (stem ++ "-"), .literal stem,
     "--semantic-color", .literal "--semantic-color", [.color]⟩]

def found (text : String) : Matcher := .pattern text (.all (Regex.chars text))

def typeStyle (use suffix : String) : Matcher :=
  .pattern ("--semantic-type-" ++ use ++ "-[\\w-]+-" ++ suffix)
    (.all (Regex.chars ("--semantic-type-" ++ use ++ "-") ++
      .plus (.one (.union .word (.single '-'))) :: Regex.chars ("-" ++ suffix)))

def typeScale (name suffix : String) (target : Namespace) (modifiers : List Modifier) : Mapping :=
  let stem := "--primitive-type-" ++ suffix
  ⟨name,
   [⟨found stem, .literal stem⟩,
    ⟨typeStyle "body" suffix, .literal "--semantic-type"⟩,
    ⟨typeStyle "heading" suffix, .literal "--semantic-type"⟩],
   [target], modifiers⟩

def stemMapping (name stem : String) (target : Namespace) (modifiers : List Modifier) : Mapping :=
  ⟨name, [.ofStem stem], [target], modifiers⟩

def pixels : Modifier := ⟨.px, 1⟩

def sections : List SectionPlan :=
  [.mapped (stemMapping "Primitive Colors" "--primitive-color-" .color []),
   .mapped (stemMapping "Breakpoints" "--layout-breakpoint" .breakpoint [pixels]),
   .mapped (typeScale "Font Sizes" "size" .text [⟨.rem, remPerPixel⟩]),
   .mapped (typeScale "Font Weights" "weight" .fontWeight []),
   .mapped (typeScale "Line Heights" "line-height" .leading [⟨.none, remPerPixel⟩]),
   .mapped (stemMapping "Font Families" "--primitive-type-family" .font []),
   .mapped (stemMapping "Border Radii" "--border-radius" .radius [pixels]),
   .mapped (stemMapping "Border Widths" "--border-width" .borderWidth [pixels]),
   .copied "Ring Widths" "Border Widths" .borderWidth .ringWidth,
   .mapped (stemMapping "Spacing" "--spacing-desktop-space" .spacing [pixels])]

def layout : Layout :=
  ⟨themes.map fun theme => ⟨theme, colorGroups theme⟩, ignored, sections, Namespace.all⟩

end DesignTokens.Standard
