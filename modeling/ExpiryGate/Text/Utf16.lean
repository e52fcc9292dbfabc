namespace ExpiryGate.Text

/-- The UTF-16 code units of a character: itself, or a leading and a trailing surrogate. -/
def units (c : Char) : List Nat :=
  let n := c.toNat
  if n < 0x10000 then [n]
  else [0xD800 + (n - 0x10000) / 0x400, 0xDC00 + (n - 0x10000) % 0x400]

/-- The UTF-16 code units of a text. -/
def utf16 (s : String) : List Nat :=
  s.toList.flatMap units

/-- The text `a` comes before `b`, or equals it, in the order of their UTF-16 code units. This
    differs from the order by code points where a character beyond U+FFFF meets one from U+E000 to
    U+FFFF. -/
def utf16Le (a b : String) : Bool :=
  !decide (utf16 b < utf16 a)

end ExpiryGate.Text
