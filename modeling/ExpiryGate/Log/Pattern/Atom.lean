import ExpiryGate.Log.Pattern.Flags
import ExpiryGate.Text.Hex

namespace ExpiryGate.Log.Pattern

/-- One thing that a pattern asks for. -/
inductive Atom where
  /-- A character, which may be written as a byte. -/
  | literal (code : Nat) (isByte : Bool)
  /-- Digits, blanks or letters, or everything else. -/
  | kind (negated : Bool)
  /-- A border of a word. -/
  | border
  /-- An end of the text. -/
  | anchor
deriving DecidableEq, Repr

/-- A number of `width` hexadecimal digits, of which those before these are worth `n`. -/
def readDigits (flags : Flags) : Nat → Nat → List Char → Option (Nat × List Char)
  | 0, n, cs => some (n, cs)
  | width + 1, n, cs =>
    match flags.skip cs with
    | [] => none
    | c :: rest =>
      match Text.hexValue? c with
      | some digit => readDigits flags width (16 * n + digit) rest
      | none => none

/-- The code of `width` hexadecimal digits, if it is the code of a character. -/
def readHex (flags : Flags) (width : Nat) (cs : List Char) : Option (Nat × List Char) := do
  let (n, rest) ← readDigits flags width 0 cs
  (Text.scalar? n).map fun c => (c.toNat, rest)

/-- What a backslash and the characters behind it stand for. -/
def readEscape (flags : Flags) : List Char → Option (Atom × List Char)
  | [] => none
  | c :: rest =>
    if c = 'x' then (readHex flags 2 rest).map fun (code, rest) => (.literal code true, rest)
    else if c = 'u' then (readHex flags 4 rest).map fun (code, rest) => (.literal code false, rest)
    else if c = 'U' then (readHex flags 8 rest).map fun (code, rest) => (.literal code false, rest)
    else if c = 'd' ∨ c = 's' ∨ c = 'w' then some (.kind false, rest)
    else if c = 'D' ∨ c = 'S' ∨ c = 'W' then some (.kind true, rest)
    else if c = 'b' ∨ c = 'B' ∨ c = '<' ∨ c = '>' then some (.border, rest)
    else if c = 'A' ∨ c = 'z' then some (.anchor, rest)
    else if c = 'a' then some (.literal 0x07 false, rest)
    else if c = 'f' then some (.literal 0x0c false, rest)
    else if c = 't' then some (.literal 0x09 false, rest)
    else if c = 'n' then some (.literal 0x0a false, rest)
    else if c = 'r' then some (.literal 0x0d false, rest)
    else if c = 'v' then some (.literal 0x0b false, rest)
    else if c.toNat < 0x80 ∧ ¬ c.isAlphanum then some (.literal c.toNat false, rest)
    else none

namespace Atom

/-- A character as it is written. -/
def verbatim (c : Char) : Atom :=
  .literal c.toNat false

/-- The atom can stand outside of a class under these flags. -/
def isAllowed (flags : Flags) : Atom → Bool
  | literal code isByte =>
    if flags.isUnicode then !flags.ignoresCase else !(isByte && 0x80 ≤ code)
  | kind negated => !flags.isUnicode && !negated
  | border => !flags.isUnicode
  | anchor => true

/-- The atom can be a member of a class under these flags. -/
def isMember (flags : Flags) : Atom → Bool
  | literal code _ => if flags.isUnicode then !flags.ignoresCase else code < 0x80
  | kind negated => !flags.isUnicode && !negated
  | border => false
  | anchor => false

end Atom

end ExpiryGate.Log.Pattern
