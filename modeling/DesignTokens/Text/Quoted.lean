import DesignTokens.Text.Printable

namespace DesignTokens.Text

def codeEscape (c : Char) : List Char :=
  "\\u\x7b".toList ++ Nat.toDigits 16 c.toNat ++ ['\x7d']

def quotedChar (apostrophes : Bool) (c : Char) : List Char :=
  match c with
  | '\x00' => ['\\', '0']
  | '\t' => ['\\', 't']
  | '\r' => ['\\', 'r']
  | '\n' => ['\\', 'n']
  | '\\' => ['\\', '\\']
  | '"' => ['\\', '"']
  | '\'' => if apostrophes then ['\\', '\''] else ['\'']
  | c => if isExtending c || !isPrintable c then codeEscape c else [c]

def quoted (apostrophes : Bool) (s : String) : String :=
  "\"" ++ .ofList (s.toList.flatMap (quotedChar apostrophes)) ++ "\""

end DesignTokens.Text
