import ExpiryGate.Calendar.Lenient

namespace ExpiryGate.Date

/-- `cs` is four digits, a dash, one or two digits, a dash, and one or two digits. -/
structure IsDashed (cs year month day : List Char) : Prop where
  eq_append : cs = year ++ '-' :: (month ++ '-' :: day)
  length_year : year.length = 4
  length_month : month.length = 1 ∨ month.length = 2
  length_day : day.length = 1 ∨ day.length = 2
  digits : ∀ c ∈ year ++ month ++ day, c.isDigit = true

/-- The grammar of expiry dates, as they are written in a baseline or given for the day of a check:
    `cs` is the expiry text of the day `d`, where leading zeros of month and day may be left out. -/
def IsExpiryText (cs : List Char) (d : Date) : Prop :=
  ∃ year month day, IsDashed cs year month day ∧
    d.year = Decimal.value year ∧ d.month = Decimal.value month ∧ d.day = Decimal.value day

/-- Four digits stand before the first dash, and there is no white space anywhere. -/
def hasPlainYear (cs : List Char) : Bool :=
  let year := cs.takeWhile (· ≠ '-')
  year.length = 4 && year.all Char.isDigit && !cs.any Text.isBlank

/-- What follows a dash, which has to come at once. -/
def expectDash : List Char → Except DateFault (List Char)
  | [] => .error .tooShort
  | '-' :: rest => .ok rest
  | _ => .error .invalid

/-- Reads year, month and day with dashes between them. White space may stand before each number,
    and the year may have a sign. -/
def readDashed (cs : List Char) : Except DateFault Date := do
  let (year, rest) ← takeYear cs
  let (month, rest) ← takePart 12 (← expectDash rest)
  let (day, rest) ← takePart 31 (← expectDash rest)
  if rest = [] then
    match ofParts? year month day with
    | some date => .ok date
    | none => .error .outOfRange
  else .error .trailing

/-- The day that a text names as an expiry date. The text is first looked at as a whole, since the
    reader for numbers between dashes by itself takes more: signs, shorter years and white space. -/
def ofExpiry? (text : String) : Option Date :=
  if hasPlainYear text.toList then (readDashed text.toList).toOption else none

end ExpiryGate.Date
