import ExpiryGate.Decimal.Binary64
import ExpiryGate.Decimal.Digits

namespace ExpiryGate

namespace Binary64

/-- The rationals `low / den` and `high / den` bound the numbers that round to a double of value
    `middle / den`. The bounds themselves belong to it iff `closed`. -/
structure Interval where
  low : Nat
  middle : Nat
  high : Nat
  den : Nat
  closed : Bool

/-- The rounding interval of `mantissa * 2 ^ exponent`. Below a power of two the neighbours are
    half as far apart as above it. -/
def interval (mantissa : Nat) (exponent : Int) : Interval :=
  let below := if mantissa = twoPow 52 ∧ leastExponent < exponent then 1 else 2
  let scale := if 2 ≤ exponent then twoPow (exponent - 2).toNat else 1
  { low := (4 * mantissa - below) * scale
    middle := 4 * mantissa * scale
    high := (4 * mantissa + 2) * scale
    den := if 2 ≤ exponent then 1 else twoPow (2 - exponent).toNat
    closed := mantissa % 2 = 0 }

/-- The number is in the interval; both are given over the same denominator. -/
def Interval.holds (i : Interval) (n : Nat) : Bool :=
  if i.closed then i.low ≤ n && n ≤ i.high else i.low < n && n < i.high

/-- The interval over a denominator for which `10 ^ power` is the whole number returned. -/
def Interval.atPower (i : Interval) (power : Int) : Interval × Nat :=
  if 0 ≤ power then (i, i.den * tenPow power.toNat)
  else
    let scale := tenPow (-power).toNat
    ({ i with low := i.low * scale, middle := i.middle * scale, high := i.high * scale }, i.den)

/-- Which of two equally near numbers is taken. -/
inductive Tie where
  | even
  | upper
deriving DecidableEq, Repr

/-- The nearer one of `lower` and `lower + 1` for a point between them, given by twice its
    distance from `lower` and by the distance of the two. -/
def Tie.nearer (tie : Tie) (lower doubled unit : Nat) : Nat :=
  if doubled < unit then lower
  else if unit < doubled then lower + 1
  else if tie = .even ∧ lower % 2 = 0 then lower
  else lower + 1

/-- The multiple of `10 ^ power` in the interval that is nearest to its middle, if there is one. -/
def Interval.multiple? (i : Interval) (tie : Tie) (power : Int) : Option Nat :=
  let (i, unit) := i.atPower power
  let lower := i.middle / unit
  let upper := lower + 1
  match lower ≠ 0 && i.holds (lower * unit), i.holds (upper * unit) with
  | true, true => some (tie.nearer lower (2 * (i.middle - lower * unit)) unit)
  | true, false => some lower
  | false, true => some upper
  | false, false => none

/-- A power of ten above every multiple in the interval. -/
def Interval.topPower (i : Interval) : Int :=
  if i.den ≤ i.high then (Nat.toDigits 10 (i.high / i.den)).length
  else 1 - (Nat.toDigits 10 (i.den / i.high)).length

/-- Tries `steps` powers of ten in turn, from `power` downwards. -/
def Interval.search (i : Interval) (tie : Tie) : Nat → Int → Nat × Int
  | 0, power => (i.middle / i.den, power)
  | steps + 1, power =>
    match i.multiple? tie power with
    | some n => (n, power)
    | none => i.search tie steps (power - 1)

end Binary64

namespace Decimal

/-- The digits `d₁ … dₙ` of the number `0.d₁…dₙ * 10 ^ point`. -/
structure Numeral where
  digits : List Char
  point : Int
deriving DecidableEq, Repr

/-- Zero has one digit before the point. -/
def Numeral.zero : Numeral := ⟨['0'], 1⟩

/-- The shortest numeral that rounds to `mantissa * 2 ^ exponent`, and of several ones the nearest
    to it. Seventeen digits always suffice, so twenty powers of ten are enough to try. -/
def Numeral.shortest (tie : Binary64.Tie) (mantissa : Nat) (exponent : Int) : Numeral :=
  if mantissa = 0 then .zero
  else
    let i := Binary64.interval mantissa exponent
    let (n, power) := i.search tie 20 i.topPower
    let ds := Decimal.digits n
    ⟨ds, power + ds.length⟩

/-- How a format writes its numerals. -/
structure Layout where
  tie : Binary64.Tie
  /-- The point positions that are written without an exponent. -/
  positional : Int → Bool
  /-- A whole number keeps its `.0`. -/
  keepsPoint : Bool
  /-- A positive exponent has a plus sign. -/
  plusSign : Bool
  /-- A negative zero has a minus sign. -/
  signedZero : Bool

/-- The numeral without an exponent. -/
def Layout.plain (layout : Layout) (n : Numeral) : List Char :=
  let count : Int := n.digits.length
  if count ≤ n.point then
    n.digits ++ List.replicate (n.point - count).toNat '0' ++
      if layout.keepsPoint then ['.', '0'] else []
  else if 0 < n.point then
    n.digits.take n.point.toNat ++ '.' :: n.digits.drop n.point.toNat
  else '0' :: '.' :: (List.replicate (-n.point).toNat '0' ++ n.digits)

/-- The numeral with one digit before the point and an exponent. -/
def Layout.scientific (layout : Layout) (n : Numeral) : List Char :=
  let exponent := n.point - 1
  let fraction := match n.digits.drop 1 with
    | [] => []
    | rest => '.' :: rest
  let sign := if layout.plusSign ∧ 0 ≤ exponent then ['+'] else []
  n.digits.take 1 ++ fraction ++ 'e' :: (sign ++ signed exponent)

/-- A finite double in this layout. -/
def Layout.render (layout : Layout) (negative : Bool) (mantissa : Nat) (exponent : Int) :
    List Char :=
  let n := Numeral.shortest layout.tie mantissa exponent
  let body := if layout.positional n.point then layout.plain n else layout.scientific n
  if negative ∧ (mantissa ≠ 0 ∨ layout.signedZero) then '-' :: body else body

end Decimal

end ExpiryGate
