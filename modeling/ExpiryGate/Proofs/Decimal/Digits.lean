import ExpiryGate.Decimal.Digits
import Mathlib.Data.List.Induction

namespace ExpiryGate.Decimal

/-- The digits of a number are read back as the number. -/
theorem value_digits (n : Nat) : value (digits n) = n :=
  Nat.ofDigitChars_ten_toDigits

theorem digits_ne_nil (n : Nat) : digits n ≠ [] :=
  Nat.toDigits_ne_nil

theorem isDigit_of_mem_digits {n : Nat} {c : Char} (h : c ∈ digits n) : c.isDigit = true :=
  Nat.isDigit_of_mem_toDigits (by decide) (by decide) h

/-- A digit is a visible character of ASCII and no quote, so it ends no string and no word. -/
theorem ascii_of_isDigit {c : Char} (h : c.isDigit = true) :
    c ≠ '"' ∧ 0x20 < c.toNat ∧ c.toNat < 0x7F := by
  rw [Char.isDigit_iff_toNat] at h
  have hzero : '0'.toNat = 48 := rfl
  have hnine : '9'.toNat = 57 := rfl
  refine ⟨?_, by omega, by omega⟩
  rintro rfl
  exact absurd h.1 (by decide)

theorem digitValue_lt {c : Char} (hc : c.isDigit = true) : digitValue c < 10 := by
  rw [Char.isDigit_iff_toNat] at hc
  have hnine : '9'.toNat = 57 := rfl
  have hzero : '0'.toNat = 48 := rfl
  unfold digitValue
  omega

/-- A digit string in front of which the value is `n` already. -/
theorem foldl_digits_lt {run : List Char} (hrun : ∀ c ∈ run, c.isDigit = true) (n : Nat) :
    run.foldl (fun n c => 10 * n + digitValue c) n < (n + 1) * tenPow run.length := by
  induction run generalizing n with
  | nil => simp [tenPow_zero]
  | cons c run ih =>
    have hfirst := digitValue_lt (hrun c List.mem_cons_self)
    rw [List.foldl_cons, List.length_cons, tenPow_succ]
    calc _ < (10 * n + digitValue c + 1) * tenPow run.length :=
          ih (fun d hd => hrun d (List.mem_cons_of_mem c hd)) _
      _ ≤ ((n + 1) * 10) * tenPow run.length := Nat.mul_le_mul_right _ (by omega)
      _ = (n + 1) * (10 * tenPow run.length) := Nat.mul_assoc ..

theorem value_lt {run : List Char} (hrun : ∀ c ∈ run, c.isDigit = true) :
    value run < tenPow run.length := by
  simpa [value] using foldl_digits_lt hrun 0

/-- A digit is the character of its value, so that a run of digits can be written back. -/
theorem digitChar_digitValue {c : Char} (h : c.isDigit = true) :
    Nat.digitChar (digitValue c) = c := by
  obtain ⟨d, hd, rfl⟩ : ∃ d, d < 10 ∧ Nat.digitChar d = c := by
    rw [Char.isDigit_iff_toNat] at h
    have hzero : '0'.toNat = 48 := rfl
    have hnine : '9'.toNat = 57 := rfl
    refine ⟨c.toNat - 48, by omega, ?_⟩
    apply Char.toNat_inj.1
    rw [Nat.toNat_digitChar_of_lt_ten (by omega)]
    omega
  rw [digitValue_digitChar hd]

/-- A run of digits is the numeral of its value, leading zeros included. -/
theorem fixed_value {run : List Char} (hrun : ∀ c ∈ run, c.isDigit = true) :
    fixed run.length (value run) = run := by
  induction run using List.reverseRecOn with
  | nil => rfl
  | append_singleton run c ih =>
    have hlast : c.isDigit = true := hrun c (by simp)
    have hfirst := ih fun d hd => hrun d (List.mem_append_left [c] hd)
    have hlt := digitValue_lt hlast
    rw [value_append_singleton, List.length_append, List.length_singleton, fixed]
    have hdiv : (10 * value run + digitValue c) / 10 = value run := by omega
    have hmod : (10 * value run + digitValue c) % 10 = digitValue c := by omega
    rw [hdiv, hmod, hfirst, digitChar_digitValue hlast]

/-- No zero leads the digits of a positive number. -/
theorem head?_digits_ne_zero {n : Nat} (hpos : 0 < n) : (digits n).head? ≠ some '0' := by
  unfold digits
  induction n using Nat.strongRecOn with
  | ind n ih =>
    rw [Nat.toDigits_eq_if (by decide)]
    split
    · simp
      omega
    · have hlead := ih (n / 10) (by omega) (by omega)
      cases hdigits : Nat.toDigits 10 (n / 10) with
      | nil => exact absurd hdigits Nat.toDigits_ne_nil
      | cons c cs => simpa [hdigits] using hlead

/-- Only zero itself is written with a zero in front, and that is its only digit. -/
theorem digits_not_padded (n : Nat) :
    ¬ ((digits n).head? = some '0' ∧ 1 < (digits n).length) := by
  rintro ⟨hzero, hlength⟩
  cases n with
  | zero => simp [digits] at hlength
  | succ n => exact head?_digits_ne_zero (Nat.succ_pos n) hzero

/-- Digits in front of anything but a digit are read as one run. -/
theorem takeWhile_isDigit_append {run rest : List Char} (hrun : ∀ c ∈ run, c.isDigit = true)
    (hrest : ∀ c, rest.head? = some c → c.isDigit = false) :
    (run ++ rest).takeWhile Char.isDigit = run ∧ (run ++ rest).dropWhile Char.isDigit = rest := by
  have hstop : rest.takeWhile Char.isDigit = [] ∧ rest.dropWhile Char.isDigit = rest := by
    cases rest with
    | nil => exact ⟨rfl, rfl⟩
    | cons c rest => simp [hrest c rfl]
  rw [List.takeWhile_append_of_pos hrun, List.dropWhile_append_of_pos hrun, hstop.1, hstop.2]
  simp

end ExpiryGate.Decimal
