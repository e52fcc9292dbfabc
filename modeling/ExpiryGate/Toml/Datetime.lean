import ExpiryGate.Calendar.Text

namespace ExpiryGate.Toml

/-- A date whose year has four digits. -/
structure LocalDate where
  date : Date
  fourDigits : 0 ≤ date.year ∧ date.year ≤ 9999
deriving DecidableEq

/-- A time of day; the sixtieth second is a leap second. -/
structure LocalTime where
  hour : Nat
  minute : Nat
  second : Nat
  nanosecond : Nat
  inRange : hour ≤ 23 ∧ minute ≤ 59 ∧ second ≤ 60 ∧ nanosecond ≤ 999999999
deriving DecidableEq

/-- The distance to universal time. -/
inductive Offset where
  | utc
  | minutes (n : Int)
deriving DecidableEq

/-- A date, a time of day, or both with or without an offset. -/
inductive Datetime where
  | date (d : LocalDate)
  | time (t : LocalTime)
  | dateTime (d : LocalDate) (t : LocalTime) (offset : Option Offset)
deriving DecidableEq

/-- Exactly `count` digits and what follows them. -/
def takeFixed (count : Nat) (cs : List Char) : Option (Nat × List Char) :=
  let run := cs.take count
  if run.length = count ∧ run.all Char.isDigit then some (Decimal.value run, cs.drop count)
  else none

/-- The characters behind `c`, which has to come first. -/
def dropChar (c : Char) : List Char → Option (List Char)
  | [] => none
  | d :: rest => if d = c then some rest else none

/-- The date with these numbers, if it exists and its year has four digits. -/
def LocalDate.ofParts? (year month day : Nat) : Option LocalDate :=
  match Date.ofParts? year month day with
  | some d => if h : 0 ≤ d.year ∧ d.year ≤ 9999 then some ⟨d, h⟩ else none
  | none => none

/-- `YYYY-MM-DD` at the start of the text. -/
def takeDate (cs : List Char) : Option (LocalDate × List Char) := do
  let (year, cs) ← takeFixed 4 cs
  let (month, cs) ← takeFixed 2 (← dropChar '-' cs)
  let (day, cs) ← takeFixed 2 (← dropChar '-' cs)
  let date ← LocalDate.ofParts? year month day
  some (date, cs)

/-- Nanoseconds from the digits of a fraction; digits beyond the ninth are cut off. -/
def nanoseconds (run : List Char) : Nat :=
  Decimal.value (run.take 9) * tenPow (9 - run.length)

/-- The digits behind a point, which may be missing as a whole. -/
def takeFraction (cs : List Char) : Option (List Char × List Char) :=
  match cs with
  | '.' :: rest =>
    let run := rest.takeWhile Char.isDigit
    if run = [] then none else some (run, rest.drop run.length)
  | _ => some ([], cs)

/-- Seconds and their fraction behind a colon, which may be missing as a whole. -/
def takeSeconds (cs : List Char) : Option ((Nat × Nat) × List Char) :=
  match cs with
  | ':' :: rest => do
    let (second, rest) ← takeFixed 2 rest
    let (run, rest) ← takeFraction rest
    some ((second, nanoseconds run), rest)
  | _ => some ((0, 0), cs)

/-- `HH:MM`, `HH:MM:SS` or `HH:MM:SS.fraction` at the start of the text. -/
def takeTime (cs : List Char) : Option (LocalTime × List Char) := do
  let (hour, cs) ← takeFixed 2 cs
  let (minute, cs) ← takeFixed 2 (← dropChar ':' cs)
  let ((second, nanosecond), cs) ← takeSeconds cs
  if h : hour ≤ 23 ∧ minute ≤ 59 ∧ second ≤ 60 ∧ nanosecond ≤ 999999999 then
    some (⟨hour, minute, second, nanosecond, h⟩, cs)
  else none

/-- `HH:MM` of an offset in minutes, and nothing behind it. -/
def readOffsetMinutes? (cs : List Char) : Option Nat := do
  let (hour, cs) ← takeFixed 2 cs
  let (minute, cs) ← takeFixed 2 (← dropChar ':' cs)
  if hour ≤ 23 ∧ minute ≤ 59 ∧ cs = [] then some (60 * hour + minute) else none

/-- An offset, or nothing at all. -/
def readOffset? : List Char → Option (Option Offset)
  | [] => some none
  | c :: rest =>
    if c = 'Z' ∨ c = 'z' then if rest = [] then some (some .utc) else none
    else if c = '+' then (readOffsetMinutes? rest).map fun n => some (.minutes n)
    else if c = '-' then (readOffsetMinutes? rest).map fun n => some (.minutes (-(n : Int)))
    else none

/-- Reads a literal as a whole. Date and time are separated by `T`, `t` or a space. -/
def Datetime.read? (cs : List Char) : Option Datetime :=
  match takeDate cs with
  | some (d, []) => some (.date d)
  | some (d, c :: rest) =>
    if c = 'T' ∨ c = 't' ∨ c = ' ' then do
      let (t, rest) ← takeTime rest
      let offset ← readOffset? rest
      some (.dateTime d t offset)
    else none
  | none =>
    match takeTime cs with
    | some (t, []) => some (.time t)
    | _ => none

/-- A fraction of a second behind its point, without trailing zeros. -/
def fractionChars (nanosecond : Nat) : List Char :=
  if nanosecond = 0 then []
  else '.' :: ((Decimal.fixed 9 nanosecond).reverse.dropWhile (· = '0')).reverse

/-- The standard form of a time of day, which always has seconds. -/
def LocalTime.chars (t : LocalTime) : List Char :=
  Decimal.fixed 2 t.hour ++ ':' :: (Decimal.fixed 2 t.minute ++
    ':' :: (Decimal.fixed 2 t.second ++ fractionChars t.nanosecond))

/-- `Z`, or a sign with hours and minutes; a distance of zero has a plus sign. -/
def Offset.chars : Offset → List Char
  | .utc => ['Z']
  | .minutes n =>
    (if n < 0 then '-' else '+') ::
      (Decimal.fixed 2 (n.natAbs / 60) ++ ':' :: Decimal.fixed 2 (n.natAbs % 60))

/-- The standard form of a date or time, with a `T` between the two. -/
def Datetime.chars : Datetime → List Char
  | .date d => d.date.chars
  | .time t => t.chars
  | .dateTime d t offset =>
    d.date.chars ++ 'T' :: (t.chars ++
      match offset with
      | some offset => offset.chars
      | none => [])

/-- The standard text of a date or time. -/
def Datetime.text (d : Datetime) : String :=
  String.ofList d.chars

end ExpiryGate.Toml
