import ExpiryGate.Calendar.Date
import ExpiryGate.Decimal.Digits

namespace ExpiryGate.Date

/-- A year in its standard form, four digits or a sign and at least four digits. -/
def yearChars (year : Int) : List Char :=
  if 0 ≤ year ∧ year ≤ 9999 then Decimal.fixed 4 year.toNat
  else (if year < 0 then '-' else '+') :: Decimal.padded 4 year.natAbs

/-- The characters of the standard text: year, month and day between dashes, with leading zeros. -/
def chars (d : Date) : List Char :=
  yearChars d.year ++ '-' :: (Decimal.fixed 2 d.month ++ '-' :: Decimal.fixed 2 d.day)

/-- The standard text of a date. -/
def text (d : Date) : String :=
  String.ofList d.chars

end ExpiryGate.Date
