namespace DesignTokens.Url

def forbiddenInHost (c : Char) : Bool := "\x00\t\n\r #/:<>?@[\\]^|".toList.contains c

def forbiddenInDomain (c : Char) : Bool :=
  forbiddenInHost c || c = '%' || c.val < 0x20 || c.val = 0x7f

end DesignTokens.Url
