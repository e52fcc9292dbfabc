import ExpiryGate.Decimal.Shortest
import ExpiryGate.Proofs.Decimal.Digits

namespace ExpiryGate

theorem twoPow_add (a b : Nat) : twoPow (a + b) = twoPow a * twoPow b :=
  Nat.pow_add 2 a b

theorem twoPow_pos (n : Nat) : 0 < twoPow n :=
  Nat.two_pow_pos n

theorem twoPow_log2_le {m : Nat} (hpos : 0 < m) : twoPow m.log2 ≤ m :=
  Nat.log2_self_le (Nat.ne_of_gt hpos)

theorem lt_twoPow_log2 (m : Nat) : m < twoPow (m.log2 + 1) :=
  Nat.lt_log2_self

namespace Binary64

theorem roundDiv_mul (n : Nat) {den : Nat} (hden : 0 < den) : roundDiv (n * den) den = n := by
  simp [roundDiv, Nat.mul_div_cancel n hden, hden]

/-- A whole number is a whole multiple of each unit that is no greater than one. -/
theorem inUnits_of_nonpos (m : Nat) {exponent : Int} (h : exponent ≤ 0) :
    inUnits m 1 exponent = m * twoPow (-exponent).toNat := by
  unfold inUnits
  split
  case isTrue hzero =>
    have heq : exponent = 0 := by omega
    subst heq
    simpa [twoPow] using roundDiv_mul m Nat.one_pos
  case isFalse => simpa using roundDiv_mul (m * twoPow (-exponent).toNat) Nat.one_pos

/-- The double of a whole number up to `2 ^ 53` is the number itself, in units no greater than one
    but for the last of them. -/
theorem nearest_whole (negative : Bool) {m : Nat} (hpos : 0 < m) (hmax : m ≤ twoPow 53) :
    ∃ mantissa exponent, nearest negative m 1 = .finite negative mantissa exponent ∧
      (exponent ≤ 0 ∧ mantissa = m * twoPow (-exponent).toNat ∨
        exponent = 1 ∧ mantissa = twoPow 52 ∧ m = twoPow 53) := by
  by_cases hlast : m = twoPow 53
  · subst hlast
    exact ⟨twoPow 52, 1, by cases negative <;> rfl, .inr ⟨rfl, rfl, rfl⟩⟩
  have hlog : m.log2 ≤ 52 := by
    refine Nat.le_of_lt_succ ((Nat.log2_lt (Nat.ne_of_gt hpos)).2 ?_)
    exact Nat.lt_of_le_of_ne hmax hlast
  have hreaches : reaches m 1 m.log2 = true := by
    simpa [reaches] using twoPow_log2_le hpos
  have hexponent : max ((m.log2 : Int) - 52) leastExponent = (m.log2 : Int) - 52 := by
    unfold leastExponent
    omega
  have hbelow : m * twoPow (52 - m.log2) < twoPow 53 := by
    have hsplit : twoPow 53 = twoPow (m.log2 + 1) * twoPow (52 - m.log2) := by
      rw [← twoPow_add]
      congr 1
      omega
    rw [hsplit]
    exact Nat.mul_lt_mul_of_pos_right (lt_twoPow_log2 m) (twoPow_pos _)
  have hunits : inUnits m 1 ((m.log2 : Int) - 52) = m * twoPow (52 - m.log2) := by
    rw [inUnits_of_nonpos m (by omega)]
    congr 2
    omega
  refine ⟨m * twoPow (52 - m.log2), (m.log2 : Int) - 52, ?_, .inl ⟨by omega, ?_⟩⟩
  · have hone : Nat.log2 1 = 0 := by decide
    unfold nearest
    simp only [Nat.ne_of_gt hpos, if_false, hone, Int.natCast_zero, Int.sub_zero, hreaches,
      if_true, hexponent, hunits, Nat.ne_of_lt hbelow]
    rw [if_neg (by unfold greatestExponent; omega)]
  · congr 2
    omega

/-- The interval lies around the whole number `m` and holds no other one that ends in a zero: the
    one below is out of it, and the one above is at most its upper bound. -/
structure Interval.IsAround (i : Interval) (m : Nat) : Prop where
  den_pos : 0 < i.den
  middle_eq : i.middle = m * i.den
  low_lt : i.low < i.middle
  lt_high : i.middle < i.high
  below : i.middle < i.low + i.den
  above : i.high ≤ i.middle + i.den
  last : i.high = i.middle + i.den → ¬ 10 ∣ m + 1

/-- Units of a quarter and less keep the neighbours of a whole number out of its interval. -/
theorem isAround_interval_of_nonpos {m : Nat} {exponent : Int} (hpos : 0 < m) (h : exponent ≤ 0) :
    (interval (m * twoPow (-exponent).toNat) exponent).IsAround m := by
  have hunits := twoPow_pos (-exponent).toNat
  have hmantissa := Nat.mul_pos hpos hunits
  have hden : twoPow (2 - exponent).toNat = 4 * twoPow (-exponent).toNat := by
    rw [show (2 - exponent).toNat = 2 + (-exponent).toNat by omega, twoPow_add]
    rfl
  have hmiddle : 4 * (m * twoPow (-exponent).toNat) = m * (4 * twoPow (-exponent).toNat) :=
    Nat.mul_left_comm ..
  have hscale : ¬ 2 ≤ exponent := by omega
  constructor <;> simp only [interval, hscale, if_false, hden, Nat.mul_one] <;> grind

/-- At the last whole number the neighbour above it is the upper bound, and it ends in a three. -/
theorem isAround_interval_last : (interval (twoPow 52) 1).IsAround (twoPow 53) := by
  constructor <;> decide

namespace Interval

/-- Whatever lies between the bounds is held, whether they belong to the interval or not. -/
theorem holds_of_lt {i : Interval} {n : Nat} (hlow : i.low < n) (hhigh : n < i.high) :
    i.holds n = true := by
  unfold holds
  split <;> simp <;> omega

theorem bounds_of_holds {i : Interval} {n : Nat} (h : i.holds n = true) :
    i.low ≤ n ∧ n ≤ i.high := by
  unfold holds at h
  split at h <;> simp at h <;> omega

variable {i : Interval} {m : Nat}

theorem IsAround.holds_middle (h : i.IsAround m) : i.holds i.middle = true :=
  holds_of_lt h.low_lt h.lt_high

theorem IsAround.eq_of_holds (h : i.IsAround m) {q : Nat} (hq : 10 ∣ q)
    (hholds : i.holds (q * i.den) = true) : q = m := by
  obtain ⟨hlow, hhigh⟩ := bounds_of_holds hholds
  rcases Nat.lt_trichotomy q m with hlt | heq | hgt
  · have hstep : (q + 1) * i.den ≤ m * i.den := Nat.mul_le_mul_right _ hlt
    rw [Nat.succ_mul, ← h.middle_eq] at hstep
    have := h.below
    omega
  · exact heq
  · have hstep : (m + 1) * i.den ≤ q * i.den := Nat.mul_le_mul_right _ hgt
    rw [Nat.succ_mul, ← h.middle_eq] at hstep
    have habove := h.above
    have hsame : q * i.den = (m + 1) * i.den := by
      rw [Nat.succ_mul, ← h.middle_eq]
      omega
    have hq' : q = m + 1 := Nat.eq_of_mul_eq_mul_right h.den_pos hsame
    exact absurd (hq' ▸ hq) (h.last (by omega))

theorem IsAround.middle_div (h : i.IsAround m) (p : Nat) :
    i.middle / (i.den * tenPow p) = m / tenPow p := by
  rw [h.middle_eq, Nat.mul_comm m, Nat.mul_div_mul_left _ _ h.den_pos]

theorem atPower_natCast (i : Interval) (p : Nat) :
    i.atPower (p : Int) = (i, i.den * tenPow p) := by
  simp [atPower]

/-- The number is found as a multiple of each power of ten that divides it. -/
theorem IsAround.multiple?_of_dvd (h : i.IsAround m) (hpos : 0 < m) (tie : Tie) {p : Nat}
    (hdvd : tenPow p ∣ m) : i.multiple? tie p = some (m / tenPow p) := by
  have hunit : 0 < i.den * tenPow p := Nat.mul_pos h.den_pos (tenPow_pos p)
  have hquotient : m / tenPow p ≠ 0 :=
    Nat.ne_of_gt (Nat.div_pos (Nat.le_of_dvd hpos hdvd) (tenPow_pos p))
  have hself : m / tenPow p * (i.den * tenPow p) = i.middle := by
    rw [Nat.mul_comm i.den, ← Nat.mul_assoc, Nat.div_mul_cancel hdvd, h.middle_eq]
  have hlower : (decide (m / tenPow p ≠ 0) && i.holds i.middle) = true := by
    rw [h.holds_middle, Bool.and_true, decide_eq_true_eq]
    exact hquotient
  unfold multiple?
  simp only [atPower_natCast, h.middle_div, hself, hlower, Nat.sub_self, Nat.mul_zero]
  -- Also where the number above is in the interval, this one is nearer.
  cases i.holds ((m / tenPow p + 1) * (i.den * tenPow p)) with
  | false => rfl
  | true => simp [Tie.nearer, hunit]

/-- No other power of ten has a multiple in the interval. -/
theorem IsAround.multiple?_of_not_dvd (h : i.IsAround m) (tie : Tie) {p : Nat}
    (hdvd : ¬ tenPow p ∣ m) : i.multiple? tie p = none := by
  have hten : 10 ∣ tenPow p := by
    cases p with
    | zero => exact absurd (Nat.one_dvd m) hdvd
    | succ p => exact tenPow_succ p ▸ Nat.dvd_mul_right 10 (tenPow p)
  have hout : ∀ n, i.holds (n * (i.den * tenPow p)) = false := by
    intro n
    refine Bool.eq_false_iff.2 fun hholds => hdvd ?_
    rw [Nat.mul_comm i.den, ← Nat.mul_assoc] at hholds
    rw [← h.eq_of_holds (Nat.dvd_trans hten (Nat.dvd_mul_left ..)) hholds]
    exact Nat.dvd_mul_left ..
  unfold multiple?
  simp only [atPower_natCast, hout, Bool.and_false]

/-- The search ends at a power of ten that divides the number. -/
theorem IsAround.search_eq (h : i.IsAround m) (hpos : 0 < m) (tie : Tie) {steps p : Nat}
    (hsteps : p < steps) :
    ∃ k, tenPow k ∣ m ∧ i.search tie steps p = (m / tenPow k, (k : Int)) := by
  induction steps generalizing p with
  | zero => omega
  | succ steps ih =>
    by_cases hdvd : tenPow p ∣ m
    · exact ⟨p, hdvd, by simp [search, h.multiple?_of_dvd hpos tie hdvd]⟩
    · cases p with
      | zero => exact absurd (Nat.one_dvd m) hdvd
      | succ p =>
        obtain ⟨k, hk, hsearch⟩ := ih (p := p) (by omega)
        refine ⟨k, hk, ?_⟩
        rw [search, h.multiple?_of_not_dvd tie hdvd]
        simpa using hsearch

end Interval

end Binary64

namespace Decimal

theorem digits_mul_tenPow {n : Nat} (hpos : 0 < n) (k : Nat) :
    digits (n * tenPow k) = digits n ++ List.replicate k '0' := by
  induction k with
  | zero => simp [tenPow_zero]
  | succ k ih =>
    have hle : 10 ≤ n * tenPow (k + 1) := by
      have := Nat.mul_pos hpos (tenPow_pos k)
      rw [tenPow_succ]
      grind
    have hdiv : n * tenPow (k + 1) / 10 = n * tenPow k ∧ n * tenPow (k + 1) % 10 = 0 := by
      rw [tenPow_succ]
      grind
    rw [digits, Nat.toDigits_of_base_le (by decide) hle, hdiv.1, hdiv.2]
    change digits (n * tenPow k) ++ ['0'] = _
    rw [ih, List.append_assoc, List.replicate_succ']

theorem length_digits_le {n : Nat} (hmax : n ≤ twoPow 53 + 1) : (digits n).length ≤ 16 := by
  refine (Nat.length_toDigits_le_iff (by decide) (by decide)).2 ?_
  exact Nat.lt_of_le_of_lt hmax (by decide)

/-- The shortest digits of the double are those of the number without the zeros at its end. -/
theorem shortest_of_isAround (tie : Binary64.Tie) {m mantissa : Nat} {exponent : Int}
    (hmantissa : 0 < mantissa) (h : (Binary64.interval mantissa exponent).IsAround m)
    (hpos : 0 < m) (hmax : m ≤ twoPow 53) :
    ∃ k, tenPow k ∣ m ∧ Numeral.shortest tie mantissa exponent =
      ⟨digits (m / tenPow k), k + (digits (m / tenPow k)).length⟩ := by
  let i := Binary64.interval mantissa exponent
  have hden : i.den ≤ i.high := by
    have hlow : 1 * i.den ≤ m * i.den := Nat.mul_le_mul_right _ hpos
    rw [← h.middle_eq, Nat.one_mul] at hlow
    exact Nat.le_trans hlow (Nat.le_of_lt h.lt_high)
  have hquotient : i.high / i.den ≤ m + 1 := by
    refine Nat.div_le_of_le_mul ?_
    rw [Nat.mul_succ, Nat.mul_comm, ← h.middle_eq]
    exact h.above
  have htop : i.topPower = ((digits (i.high / i.den)).length : Int) :=
    if_pos hden
  have hsteps : (digits (i.high / i.den)).length < 20 :=
    Nat.lt_of_le_of_lt (length_digits_le (Nat.le_trans hquotient (Nat.succ_le_succ hmax)))
      (by decide)
  obtain ⟨k, hdvd, hsearch⟩ := h.search_eq hpos tie hsteps
  refine ⟨k, hdvd, ?_⟩
  rw [← htop] at hsearch
  unfold Numeral.shortest
  simp only [Nat.ne_of_gt hmantissa, if_false, i, hsearch]

/-- Where no exponent is written the zeros at the end of the number come back. -/
theorem Layout.render_of_isAround (layout : Layout) (hkeeps : layout.keepsPoint = false)
    (hpositional : ∀ point, 0 < point → point ≤ 16 → layout.positional point = true)
    (negative : Bool) {m mantissa : Nat} {exponent : Int} (hmantissa : 0 < mantissa)
    (h : (Binary64.interval mantissa exponent).IsAround m) (hpos : 0 < m)
    (hmax : m ≤ twoPow 53) :
    layout.render negative mantissa exponent = (if negative then ['-'] else []) ++ digits m := by
  obtain ⟨k, hdvd, hshortest⟩ := shortest_of_isAround layout.tie hmantissa h hpos hmax
  have hquotient : 0 < m / tenPow k := Nat.div_pos (Nat.le_of_dvd hpos hdvd) (tenPow_pos k)
  have hdigits : digits m = digits (m / tenPow k) ++ List.replicate k '0' := by
    rw [← digits_mul_tenPow hquotient, Nat.div_mul_cancel hdvd]
  have hlength : (digits (m / tenPow k)).length + k ≤ 16 := by
    have := length_digits_le (Nat.le_succ_of_le hmax)
    simpa [hdigits] using this
  have hcount : 0 < (digits (m / tenPow k)).length := Nat.length_toDigits_pos
  have hplain : layout.plain ⟨digits (m / tenPow k), k + (digits (m / tenPow k)).length⟩ =
      digits m := by
    unfold Layout.plain
    simp only [hkeeps]
    rw [if_pos (by omega), hdigits]
    simp
  unfold Layout.render
  simp only [hshortest]
  rw [hpositional _ (by omega) (by omega), hplain]
  cases negative <;> simp [Nat.ne_of_gt hmantissa]

/-- Up to `2 ^ 53` the text of the double is the text of the number. -/
theorem Layout.render_nearest (layout : Layout) (hkeeps : layout.keepsPoint = false)
    (hpositional : ∀ point, 0 < point → point ≤ 16 → layout.positional point = true)
    (negative : Bool) {m : Nat} (hpos : 0 < m) (hmax : m ≤ twoPow 53) :
    ∃ mantissa exponent, Binary64.nearest negative m 1 = .finite negative mantissa exponent ∧
      layout.render negative mantissa exponent = (if negative then ['-'] else []) ++ digits m := by
  obtain ⟨mantissa, exponent, hnearest, hcases⟩ := Binary64.nearest_whole negative hpos hmax
  refine ⟨mantissa, exponent, hnearest, ?_⟩
  rcases hcases with ⟨hexponent, rfl⟩ | ⟨rfl, rfl, rfl⟩
  · exact layout.render_of_isAround hkeeps hpositional negative
      (Nat.mul_pos hpos (twoPow_pos _)) (Binary64.isAround_interval_of_nonpos hpos hexponent)
      hpos hmax
  · exact layout.render_of_isAround hkeeps hpositional negative (twoPow_pos 52)
      Binary64.isAround_interval_last hpos hmax

end Decimal

end ExpiryGate
