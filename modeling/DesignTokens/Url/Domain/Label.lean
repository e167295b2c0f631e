import DesignTokens.Text.Composed
import DesignTokens.Url.Domain.Direction
import DesignTokens.Url.Domain.Joining
import DesignTokens.Url.Domain.Mapping
import DesignTokens.Url.Punycode

namespace DesignTokens.Url.Domain

def encodedMark : List Char := "xn--".toList

def decodedLabel? (s : List Char) : Option (List Char) := do
  if s = [] ∨ s.getLast? = some '-' then none
  let label ← Punycode.decode? s
  if label.all (fun c => mapped? c = some [c]) ∧ Text.composed label = label then return label
  else none

def label? (s : List Char) : Option (List Char) := do
  let label ← if encodedMark.isPrefixOf s then decodedLabel? (s.drop encodedMark.length) else some s
  if label.head?.any Text.isMark ∨ !joinersFit [] label then none else return label

def asciiLabel (label : List Char) : List Char :=
  if label.all Punycode.isBasic then label else encodedMark ++ Punycode.encode label

def labels? (s : List Char) : Option (List (List Char)) := do
  let mapped ← s.mapM mapped?
  let labels ← ((Text.composed mapped.flatten).splitOn '.').mapM label?
  if labels.any turns ∧ !labels.all isOneWay then none else return labels

def ascii? (s : List Char) : Option (List Char) :=
  (labels? s).map fun labels => List.intercalate ['.'] (labels.map asciiLabel)

end DesignTokens.Url.Domain
