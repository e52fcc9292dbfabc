import ExpiryGate.Decimal.Binary64
import ExpiryGate.Decimal.Digits
import ExpiryGate.Text.Hex

namespace ExpiryGate.Toml

/-- What a number literal is worth. -/
inductive Literal where
  | integer (n : Int)
  | float (x : Binary64)
  /-- The literal has no value. -/
  | misfit

/-- The text without its underscores, each of which has to stand between two digits. The `Bool`
    tells whether a digit stands before the text. -/
def joinGroups? (isDigit : Char → Bool) : Bool → List Char → Option (List Char)
  | _, [] => some []
  | behindDigit, c :: rest =>
    if c = '_' then
      if behindDigit && rest.head?.any isDigit then joinGroups? isDigit false rest else none
    else (joinGroups? isDigit (isDigit c) rest).map (c :: ·)

/-- A sign: none, or whether it is a minus sign. -/
def takeSign : List Char → Option Bool × List Char
  | '-' :: rest => (some true, rest)
  | '+' :: rest => (some false, rest)
  | cs => (none, cs)

/-- The number with this sign and magnitude. -/
def withSign (sign : Option Bool) (magnitude : Nat) : Int :=
  if sign = some true then -(magnitude : Int) else magnitude

/-- One or more decimal digits, and nothing else. -/
def isDigitRun (cs : List Char) : Bool :=
  cs ≠ [] && cs.all Char.isDigit

/-- A hexadecimal digit of either case. -/
def isHexDigit (c : Char) : Bool :=
  (Text.hexValue? c).isSome

/-- The value of digits in a base given by the values of its digits. -/
def baseValue (base : Nat) (run : List Char) : Nat :=
  run.foldl (fun n c => base * n + (Text.hexValue? c).getD 0) 0

/-- An integer that has to fit 128 bits, with or without sign. -/
def Literal.ofInt (n : Int) : Literal :=
  if fits 128 n then .integer n else .misfit

/-- What stands behind `0x`, `0o` or `0b`. Without any digit it has no value. -/
def readBased? (base : Nat) (cs : List Char) : Option Literal :=
  if cs.all fun c => c = '_' || (Text.hexValue? c).any (· < base) then
    (joinGroups? isHexDigit false cs).map fun run =>
      if run = [] then .misfit else .ofInt (baseValue base run)
  else none

/-- A decimal integer behind its sign. Groups of hexadecimal digits are well formed, but only
    decimal ones have a value. -/
def readInteger? (sign : Option Bool) (cs : List Char) : Option Literal :=
  if cs.head? = some '0' ∧ cs ≠ ['0'] then none
  else
    (joinGroups? isHexDigit false cs).map fun run =>
      if isDigitRun run then .ofInt (withSign sign (Decimal.value run)) else .misfit

/-- The exponent of a float, behind its letter. -/
def readExponent? (cs : List Char) : Option Int :=
  let (sign, run) := takeSign cs
  if isDigitRun run then some (withSign sign (Decimal.value run)) else none

/-- Digits, a point and further digits. The point and what follows it may be missing. -/
def splitSignificand (cs : List Char) : List Char × Option (List Char) :=
  match cs.dropWhile (· ≠ '.') with
  | _ :: fraction => (cs.takeWhile (· ≠ '.'), some fraction)
  | [] => (cs, none)

/-- The letter before an exponent. -/
def isExponentMark (c : Char) : Bool :=
  c = 'e' || c = 'E'

/-- The double nearest to the digits before and behind a point with an exponent. -/
def Literal.ofDecimal (negative : Bool) (whole fraction : List Char) (exponent : Int) : Literal :=
  match Binary64.ofDecimal negative (Decimal.value (whole ++ fraction))
      (exponent - fraction.length) with
  | .finite negative mantissa exponent => .float (.finite negative mantissa exponent)
  | _ => .misfit

/-- A float behind its sign: digits with a point, an exponent or both. -/
def readFloat? (sign : Option Bool) (cs : List Char) : Option Literal := do
  let joined ← joinGroups? Char.isDigit false cs
  let (whole, fraction) := splitSignificand (joined.takeWhile fun c => !isExponentMark c)
  let exponent ← match joined.dropWhile fun c => !isExponentMark c with
    | _ :: rest => readExponent? rest
    | [] => some 0
  if cs.head? = some '0' ∧ 1 < whole.length then none
  else if isDigitRun whole ∧ fraction.all isDigitRun then
    some (.ofDecimal (sign = some true) whole (fraction.getD []) exponent)
  else none

/-- A number literal. The sign of a nan is dropped. -/
def readNumber? (cs : List Char) : Option Literal :=
  match cs with
  | '0' :: 'x' :: rest => readBased? 16 rest
  | '0' :: 'o' :: rest => readBased? 8 rest
  | '0' :: 'b' :: rest => readBased? 2 rest
  | _ =>
    let (sign, body) := takeSign cs
    let rest := body.dropWhile Char.isDigit
    if body = "inf".toList then some (.float (.infinite (sign = some true)))
    else if body = "nan".toList then some (.float .nan)
    else if rest.any fun c => c = '.' || isExponentMark c then readFloat? sign body
    else if body ≠ [] ∧ (rest = [] ∨ rest.head? = some '_') then readInteger? sign body
    else none

end ExpiryGate.Toml
