namespace DesignTokens.Number

def hexValue? (c : Char) : Option Nat :=
  if '0' ≤ c ∧ c ≤ '9' then some (c.toNat - 48)
  else if 'a' ≤ c ∧ c ≤ 'f' then some (c.toNat - 87)
  else if 'A' ≤ c ∧ c ≤ 'F' then some (c.toNat - 55)
  else none

def hexDigit (ten : Char) (n : Nat) : Char :=
  if n < 10 then .ofNat (48 + n) else .ofNat (ten.toNat + (n - 10))

end DesignTokens.Number
