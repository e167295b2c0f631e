import DesignTokens.Text.Ranges

/-!
White space and trimming. `isBlank` is the Unicode property White_Space; a zero width space and a
byte order mark do not have it.
-/

namespace DesignTokens.Text

def blankRanges : List (Nat × Nat) :=
  [(0x9, 0xd), (0x20, 0x20), (0x85, 0x85), (0xa0, 0xa0), (0x1680, 0x1680), (0x2000, 0x200a),
   (0x2028, 0x2029), (0x202f, 0x202f), (0x205f, 0x205f), (0x3000, 0x3000)]

def isBlank (c : Char) : Bool := inRanges blankRanges c

def trimStart (s : List Char) : List Char := s.dropWhile isBlank

def trimEnd (s : List Char) : List Char := (s.reverse.dropWhile isBlank).reverse

def trim (s : List Char) : List Char := trimEnd (trimStart s)

def stripped (s : String) : String := .ofList (trim s.toList)

def allBlank (s : String) : Bool := s.toList.all isBlank

end DesignTokens.Text
