namespace DesignTokens.Text

def lowerAscii (c : Char) : Char := if 65 ≤ c.val && c.val ≤ 90 then .ofNat (c.toNat + 32) else c

def lower (s : List Char) : List Char := s.map lowerAscii

end DesignTokens.Text
