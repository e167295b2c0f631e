import DesignTokens.Number.Hex

namespace DesignTokens.Url

def hiddenInHost (c : Char) : Bool := c.val < 0x20 || 0x7e < c.val

def hiddenInFragment (c : Char) : Bool := hiddenInHost c || " \"<>`".toList.contains c

def hiddenInPath (c : Char) : Bool := hiddenInFragment c || "#?\x7b\x7d".toList.contains c

def hiddenInUser (c : Char) : Bool := hiddenInPath c || "/:;=@[\\]^|".toList.contains c

def hiddenInQuery (special : Bool) (c : Char) : Bool :=
  hiddenInHost c || " \"#<>".toList.contains c || (special && c = '\'')

def hexDigit (n : Nat) : Char := Number.hexDigit 'A' n

def encodeByte (byte : UInt8) : List Char :=
  ['%', hexDigit (byte.toNat / 16), hexDigit (byte.toNat % 16)]

def bytes (c : Char) : List UInt8 := String.utf8EncodeChar c

def encodeChar (hidden : Char → Bool) (c : Char) : List Char :=
  if hidden c then (bytes c).flatMap encodeByte else [c]

def encode (hidden : Char → Bool) (s : List Char) : List Char := s.flatMap (encodeChar hidden)

def decodedBytes : List Char → List UInt8
  | [] => []
  | '%' :: a :: b :: rest =>
    match Number.hexValue? a, Number.hexValue? b with
    | some high, some low => .ofNat (16 * high + low) :: decodedBytes rest
    | _, _ => 37 :: decodedBytes (a :: b :: rest)
  | c :: rest => bytes c ++ decodedBytes rest

def decode? (s : List Char) : Option (List Char) :=
  (String.fromUTF8? ⟨(decodedBytes s).toArray⟩).map String.toList

end DesignTokens.Url
