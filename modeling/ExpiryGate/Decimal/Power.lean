namespace ExpiryGate

/-- The power of two with this exponent. -/
def twoPow (n : Nat) : Nat :=
  Nat.pow 2 n

/-- The power of ten with this exponent. -/
def tenPow (n : Nat) : Nat :=
  Nat.pow 10 n

theorem tenPow_zero : tenPow 0 = 1 :=
  rfl

theorem tenPow_succ (n : Nat) : tenPow (n + 1) = 10 * tenPow n :=
  Nat.mul_comm (tenPow n) 10

theorem tenPow_pos (n : Nat) : 0 < tenPow n := by
  induction n with
  | zero => exact Nat.one_pos
  | succ n ih =>
    rw [tenPow_succ]
    omega

/-- The integer fits this many bits, of which one is for the sign. -/
def fitsSigned (width : Nat) (n : Int) : Bool :=
  -(twoPow (width - 1) : Int) ≤ n && n < twoPow (width - 1)

/-- The integer fits this many bits without a sign. -/
def fitsUnsigned (width : Nat) (n : Int) : Bool :=
  0 ≤ n && n < twoPow width

/-- The integer fits this many bits, with a sign or without one. -/
def fits (width : Nat) (n : Int) : Bool :=
  fitsSigned width n || fitsUnsigned width n

end ExpiryGate
