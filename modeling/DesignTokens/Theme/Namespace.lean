namespace DesignTokens

inductive Namespace where
  | color
  | breakpoint
  | text
  | font
  | fontWeight
  | leading
  | radius
  | borderWidth
  | spacing
  | insetShadow
  | backgroundColor
  | textColor
  | borderColor
  | ringColor
  | ringWidth
  deriving DecidableEq

namespace Namespace

def all : List Namespace :=
  [color, breakpoint, text, font, fontWeight, leading, radius, borderWidth, spacing, insetShadow,
   backgroundColor, textColor, borderColor, ringColor, ringWidth]

def name : Namespace → String
  | color => "Color"
  | breakpoint => "Breakpoint"
  | text => "Text"
  | font => "Font"
  | fontWeight => "FontWeight"
  | leading => "Leading"
  | radius => "Radius"
  | borderWidth => "BorderWidth"
  | spacing => "Spacing"
  | insetShadow => "InsetShadow"
  | backgroundColor => "BackgroundColor"
  | textColor => "TextColor"
  | borderColor => "BorderColor"
  | ringColor => "RingColor"
  | ringWidth => "RingWidth"

def ofName? (text : String) : Option Namespace := all.find? (·.name = text)

def stem : Namespace → String
  | color => "--color"
  | breakpoint => "--breakpoint"
  | text => "--text"
  | font => "--font"
  | fontWeight => "--font-weight"
  | leading => "--leading"
  | radius => "--radius"
  | borderWidth => "--border-width"
  | spacing => "--spacing"
  | insetShadow => "--inset-shadow"
  | backgroundColor => "--background-color"
  | textColor => "--text-color"
  | borderColor => "--border-color"
  | ringColor => "--ring-color"
  | ringWidth => "--ring-width"

def reset (n : Namespace) : String := n.stem ++ "-*: initial;"

end Namespace

end DesignTokens
