import ExpiryGate.Decimal.Power

namespace ExpiryGate.Decimal

/-- The digits of `n` without leading zeros; zero is written `0`. -/
def digits (n : Nat) : List Char :=
  Nat.toDigits 10 n

/-- A natural number as a text. -/
def text (n : Nat) : String :=
  String.ofList (digits n)

/-- The last `width` decimal digits of `n`, leading zeros included. -/
def fixed : Nat → Nat → List Char
  | 0, _ => []
  | width + 1, n => fixed width (n / 10) ++ [Nat.digitChar (n % 10)]

/-- The digits of `n`, with leading zeros if there are fewer than `width` of them. -/
def padded (width n : Nat) : List Char :=
  if n < tenPow width then fixed width n else digits n

/-- The digits of an integer behind its minus sign. -/
def signed : Int → List Char
  | .ofNat n => digits n
  | .negSucc n => '-' :: digits (n + 1)

/-- The value of one ASCII decimal digit. -/
def digitValue (c : Char) : Nat :=
  c.toNat - '0'.toNat

/-- The value of a digit string, the most significant digit first. -/
def value (cs : List Char) : Nat :=
  cs.foldl (fun n c => 10 * n + digitValue c) 0

/-- A fixed-width numeral has its width, also where the number has more digits. -/
theorem length_fixed (width n : Nat) : (fixed width n).length = width := by
  induction width generalizing n with
  | zero => rfl
  | succ width ih => simp [fixed, ih]

/-- A further digit counts once, and those before it ten times as much as without it. -/
theorem value_append_singleton (cs : List Char) (c : Char) :
    value (cs ++ [c]) = 10 * value cs + digitValue c := by
  simp [value]

theorem digitValue_digitChar {d : Nat} (h : d < 10) : digitValue (Nat.digitChar d) = d := by
  have : d = 0 ∨ d = 1 ∨ d = 2 ∨ d = 3 ∨ d = 4 ∨ d = 5 ∨ d = 6 ∨ d = 7 ∨ d = 8 ∨ d = 9 := by
    omega
  rcases this with rfl | rfl | rfl | rfl | rfl | rfl | rfl | rfl | rfl | rfl <;> rfl

theorem isDigit_digitChar {d : Nat} (h : d < 10) : (Nat.digitChar d).isDigit = true := by
  have : d = 0 ∨ d = 1 ∨ d = 2 ∨ d = 3 ∨ d = 4 ∨ d = 5 ∨ d = 6 ∨ d = 7 ∨ d = 8 ∨ d = 9 := by
    omega
  rcases this with rfl | rfl | rfl | rfl | rfl | rfl | rfl | rfl | rfl | rfl <;> rfl

theorem isDigit_of_mem_fixed {width n : Nat} {c : Char} (h : c ∈ fixed width n) :
    c.isDigit = true := by
  induction width generalizing n with
  | zero => simp [fixed] at h
  | succ width ih =>
    rcases List.mem_append.1 h with hinit | hlast
    · exact ih hinit
    · rw [List.mem_singleton.1 hlast]
      exact isDigit_digitChar (Nat.mod_lt _ (by decide))

/-- A fixed-width numeral that is wide enough reads back as its number. -/
theorem value_fixed {width n : Nat} (h : n < tenPow width) : value (fixed width n) = n := by
  induction width generalizing n with
  | zero =>
    rw [tenPow_zero] at h
    simp [fixed, value]
    omega
  | succ width ih =>
    have hdiv : n / 10 < tenPow width := by
      rw [tenPow_succ] at h
      omega
    rw [fixed, value_append_singleton, ih hdiv, digitValue_digitChar (Nat.mod_lt _ (by decide))]
    omega

end ExpiryGate.Decimal
