namespace ExpiryGate.Text

/-- The value of a hexadecimal digit of either case. -/
def hexValue? (c : Char) : Option Nat :=
  if '0' ≤ c ∧ c ≤ '9' then some (c.toNat - '0'.toNat)
  else if 'a' ≤ c ∧ c ≤ 'f' then some (c.toNat - 'a'.toNat + 10)
  else if 'A' ≤ c ∧ c ≤ 'F' then some (c.toNat - 'A'.toNat + 10)
  else none

/-- The last `width` lower-case hexadecimal digits of `n`. -/
def hexLower : Nat → Nat → List Char
  | 0, _ => []
  | width + 1, n => hexLower width (n / 16) ++ [Nat.digitChar (n % 16)]

/-- The last `width` upper-case hexadecimal digits of `n`. -/
def hexUpper (width n : Nat) : List Char :=
  (hexLower width n).map Char.toUpper

/-- The character with this code point, unless it is a surrogate or beyond the last character. -/
def scalar? (n : Nat) : Option Char :=
  if n.isValidChar then some (Char.ofNat n) else none

end ExpiryGate.Text
