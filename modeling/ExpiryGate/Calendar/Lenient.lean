import ExpiryGate.Calendar.Date
import ExpiryGate.Decimal.Digits
import ExpiryGate.Text.Blank

namespace ExpiryGate

/-- What keeps a text from being a date. -/
inductive DateFault where
  | tooShort
  | invalid
  | outOfRange
  | trailing
deriving DecidableEq, Repr

/-- What is said of a text that is no date. -/
def DateFault.message : DateFault → String
  | .tooShort => "premature end of input"
  | .invalid => "input contains invalid characters"
  | .outOfRange => "input is out of range"
  | .trailing => "trailing input"

namespace Date

/-- A run of at least one and at most `most` digits, where `none` sets no limit. -/
def takeNumber (most : Option Nat) (cs : List Char) : Except DateFault (Nat × List Char) :=
  match cs with
  | [] => .error .tooShort
  | c :: _ =>
    if c.isDigit then
      let run := cs.takeWhile Char.isDigit
      let run := match most with
        | some most => run.take most
        | none => run
      .ok (Decimal.value run, cs.drop run.length)
    else .error .invalid

/-- A year: a sign and any number of digits, or up to four digits. Magnitudes that do not fit 32
    bits are refused at once. -/
def takeYear (cs : List Char) : Except DateFault (Int × List Char) :=
  match Text.skipBlank cs with
  | '-' :: rest => do
    let (n, rest) ← takeNumber none rest
    if n ≤ 2147483648 then .ok (-(n : Int), rest) else .error .outOfRange
  | '+' :: rest => do
    let (n, rest) ← takeNumber none rest
    if n ≤ 2147483647 then .ok ((n : Int), rest) else .error .outOfRange
  | rest => do
    let (n, rest) ← takeNumber (some 4) rest
    .ok ((n : Int), rest)

/-- A month or a day of the month between 1 and `last`. -/
def takePart (last : Nat) (cs : List Char) : Except DateFault (Nat × List Char) := do
  let (n, rest) ← takeNumber (some 2) (Text.skipBlank cs)
  if 1 ≤ n ∧ n ≤ last then .ok (n, rest) else .error .outOfRange

/-- A dash with white space before it. -/
def takeDash (cs : List Char) : Except DateFault (List Char) :=
  match Text.skipBlank cs with
  | [] => .error .tooShort
  | '-' :: rest => .ok rest
  | _ => .error .invalid

/-- Reads a date leniently; of several faults the leftmost is reported. -/
def readLenient (text : String) : Except DateFault Date := do
  let (year, rest) ← takeYear text.toList
  let (month, rest) ← takePart 12 (← takeDash rest)
  let (day, rest) ← takePart 31 (← takeDash rest)
  if Text.skipBlank rest = [] then
    match ofParts? year month day with
    | some date => .ok date
    | none => .error .outOfRange
  else .error .trailing

end Date

end ExpiryGate
