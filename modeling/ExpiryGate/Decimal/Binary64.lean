import ExpiryGate.Decimal.Power

namespace ExpiryGate

/-- A double-precision number by its exact value, so that all arithmetic is on natural numbers.
    Rounding produces finite values with `mantissa < 2 ^ 53` and `-1074 ≤ exponent ≤ 971`, and `2 ^
    52 ≤ mantissa` above the least exponent. -/
inductive Binary64 where
  | finite (negative : Bool) (mantissa : Nat) (exponent : Int)
  | infinite (negative : Bool)
  | nan
deriving DecidableEq, Repr

namespace Binary64

/-- The exponent of the doubles nearest to zero. -/
def leastExponent : Int := -1074

/-- The exponent of the greatest doubles. -/
def greatestExponent : Int := 971

/-- The quotient rounded to the nearest integer; a half goes to the even neighbour. -/
def roundDiv (num den : Nat) : Nat :=
  let quotient := num / den
  let twice := 2 * (num % den)
  if twice < den then quotient
  else if twice > den then quotient + 1
  else if quotient % 2 = 0 then quotient
  else quotient + 1

/-- `num / den` in units of `2 ^ exponent`, rounded. -/
def inUnits (num den : Nat) (exponent : Int) : Nat :=
  if 0 ≤ exponent then roundDiv num (den * twoPow exponent.toNat)
  else roundDiv (num * twoPow (-exponent).toNat) den

/-- `num / den` is at least `2 ^ power`. -/
def reaches (num den : Nat) (power : Int) : Bool :=
  if 0 ≤ power then den * twoPow power.toNat ≤ num
  else den ≤ num * twoPow (-power).toNat

/-- The double nearest to `num / den` for a positive `den`, where a half goes to the even
    mantissa and values beyond the greatest double become infinite. -/
def nearest (negative : Bool) (num den : Nat) : Binary64 :=
  if num = 0 then .finite negative 0 leastExponent
  else
    let estimate : Int := (num.log2 : Int) - den.log2
    let power := if reaches num den estimate then estimate else estimate - 1
    let exponent := max (power - 52) leastExponent
    let mantissa := inUnits num den exponent
    let (mantissa, exponent) :=
      if mantissa = twoPow 53 then (twoPow 52, exponent + 1) else (mantissa, exponent)
    if exponent > greatestExponent then .infinite negative
    else .finite negative mantissa exponent

/-- The double nearest to `significand * 10 ^ exponent`. Magnitudes that are certainly too large
    or too small are settled without computing the power of ten. -/
def ofDecimal (negative : Bool) (significand : Nat) (exponent : Int) : Binary64 :=
  let magnitude : Int := exponent + (Nat.toDigits 10 significand).length
  if significand = 0 ∨ magnitude < -330 then .finite negative 0 leastExponent
  else if magnitude > 310 then .infinite negative
  else if 0 ≤ exponent then nearest negative (significand * tenPow exponent.toNat) 1
  else nearest negative significand (tenPow (-exponent).toNat)

/-- The double nearest to an integer. -/
def ofInt (n : Int) : Binary64 :=
  nearest (n < 0) n.natAbs 1

end Binary64

end ExpiryGate
