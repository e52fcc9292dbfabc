import ExpiryGate.Calendar.Lenient
import ExpiryGate.Calendar.Text
import ExpiryGate.Proofs.Decimal.Digits

namespace ExpiryGate.Date

theorem skipBlank_of_isDigit {c : Char} (rest : List Char) (hc : c.isDigit = true) :
    Text.skipBlank (c :: rest) = c :: rest :=
  have hascii := Decimal.ascii_of_isDigit hc
  Text.skipBlank_cons rest (Text.isBlank_eq_false_of_ascii hascii.2.1 hascii.2.2)

/-- A run of digits is read as a whole, if it is no longer than allowed. -/
theorem takeNumber_run {most : Option Nat} {run rest : List Char}
    (hrun : ∀ c ∈ run, c.isDigit = true) (hne : run ≠ [])
    (hmost : ∀ k, most = some k → run.length ≤ k)
    (hrest : ∀ c, rest.head? = some c → c.isDigit = false) :
    takeNumber most (run ++ rest) = .ok (Decimal.value run, rest) := by
  obtain ⟨htake, _⟩ := Decimal.takeWhile_isDigit_append hrun hrest
  obtain ⟨c, cs, rfl⟩ := List.exists_cons_of_ne_nil hne
  have hfirst : c.isDigit = true := hrun c List.mem_cons_self
  rw [List.cons_append] at htake ⊢
  simp only [takeNumber, hfirst, if_true, htake]
  cases most with
  | none => simp
  | some k => simp [List.take_of_length_le (hmost k rfl)]

/-- The part of a date behind a number. -/
theorem takeDash_cons (rest : List Char) : takeDash ('-' :: rest) = .ok rest := by
  rw [takeDash, Text.skipBlank_cons rest (by decide)]
  rfl

theorem fixed_ne_nil (width n : Nat) : Decimal.fixed (width + 1) n ≠ [] := by
  simp [Decimal.fixed]

theorem skipBlank_run {run : List Char} (hrun : ∀ c ∈ run, c.isDigit = true) (hne : run ≠ [])
    (rest : List Char) : Text.skipBlank (run ++ rest) = run ++ rest := by
  obtain ⟨c, cs, rfl⟩ := List.exists_cons_of_ne_nil hne
  exact skipBlank_of_isDigit (cs ++ rest) (hrun c List.mem_cons_self)

/-- One or two digits are a month or a day of the month, if their value is in range. -/
theorem takePart_run {last : Nat} {run rest : List Char} (hrun : ∀ c ∈ run, c.isDigit = true)
    (hlength : run.length = 1 ∨ run.length = 2) (hlow : 1 ≤ Decimal.value run)
    (hhigh : Decimal.value run ≤ last) (hrest : ∀ c, rest.head? = some c → c.isDigit = false) :
    takePart last (run ++ rest) = .ok (Decimal.value run, rest) := by
  have hne : run ≠ [] := by
    rintro rfl
    simp at hlength
  have hnumber : takeNumber (some 2) (run ++ rest) = .ok (Decimal.value run, rest) :=
    takeNumber_run hrun hne (fun k hk => by cases hk; omega) hrest
  simp [takePart, skipBlank_run hrun hne, hnumber, bind, Except.bind, hlow, hhigh]

/-- A month or a day in two digits is read back, with what follows it left. -/
theorem takePart_fixed {last n : Nat} {rest : List Char} (hlow : 1 ≤ n) (hhigh : n ≤ last)
    (hlast : last < 100) (hrest : ∀ c, rest.head? = some c → c.isDigit = false) :
    takePart last (Decimal.fixed 2 n ++ rest) = .ok (n, rest) := by
  have hvalue : Decimal.value (Decimal.fixed 2 n) = n :=
    Decimal.value_fixed (by change n < 100; omega)
  have hpart : takePart last (Decimal.fixed 2 n ++ rest) =
      .ok (Decimal.value (Decimal.fixed 2 n), rest) :=
    takePart_run (fun c hc => Decimal.isDigit_of_mem_fixed hc) (.inr (Decimal.length_fixed 2 n))
      (by omega) (by omega) hrest
  rw [hpart, hvalue]

theorem isDigit_of_mem_padded {width n : Nat} {c : Char} (h : c ∈ Decimal.padded width n) :
    c.isDigit = true := by
  unfold Decimal.padded at h
  split at h
  · exact Decimal.isDigit_of_mem_fixed h
  · exact Decimal.isDigit_of_mem_digits h

theorem value_padded (width n : Nat) : Decimal.value (Decimal.padded width n) = n := by
  unfold Decimal.padded
  split
  case isTrue h => exact Decimal.value_fixed h
  case isFalse => exact Decimal.value_digits n

/-- Up to four digits without a sign are a year. -/
theorem takeYear_run {run rest : List Char} (hrun : ∀ c ∈ run, c.isDigit = true) (hne : run ≠ [])
    (hlength : run.length ≤ 4) (hrest : ∀ c, rest.head? = some c → c.isDigit = false) :
    takeYear (run ++ rest) = .ok ((Decimal.value run : Int), rest) := by
  have hnumber : takeNumber (some 4) (run ++ rest) = .ok (Decimal.value run, rest) :=
    takeNumber_run hrun hne (fun k hk => by cases hk; exact hlength) hrest
  obtain ⟨c, cs, rfl⟩ := List.exists_cons_of_ne_nil hne
  have hfirst : c.isDigit = true := hrun c List.mem_cons_self
  have hminus : c ≠ '-' := by
    rintro rfl
    exact absurd hfirst (by decide)
  have hplus : c ≠ '+' := by
    rintro rfl
    exact absurd hfirst (by decide)
  rw [List.cons_append] at hnumber ⊢
  rw [takeYear, skipBlank_of_isDigit _ hfirst]
  split
  next heq => exact absurd (List.cons.inj heq).1 hminus
  next heq => exact absurd (List.cons.inj heq).1 hplus
  next => simp only [hnumber, bind, Except.bind]

/-- The standard text of a year is read back, with the sign that it has outside of four digits. -/
theorem takeYear_yearChars {year : Int} (hfirst : firstYear ≤ year) (hlast : year ≤ lastYear)
    {rest : List Char} (hrest : ∀ c, rest.head? = some c → c.isDigit = false) :
    takeYear (yearChars year ++ rest) = .ok (year, rest) := by
  unfold firstYear at hfirst
  unfold lastYear at hlast
  unfold yearChars
  split
  case isTrue hplain =>
    rw [takeYear_run (fun c hc => Decimal.isDigit_of_mem_fixed hc) (fixed_ne_nil 3 _)
        (Nat.le_of_eq (Decimal.length_fixed ..)) hrest,
      Decimal.value_fixed (by change _ < 10000; omega)]
    congr 2
    omega
  case isFalse hsigned =>
    have hdigits : ∀ c ∈ Decimal.padded 4 year.natAbs, c.isDigit = true :=
      fun c hc => isDigit_of_mem_padded hc
    have hne : Decimal.padded 4 year.natAbs ≠ [] := by
      unfold Decimal.padded
      split
      · exact fixed_ne_nil 3 _
      · exact Decimal.digits_ne_nil _
    have hnumber : takeNumber none (Decimal.padded 4 year.natAbs ++ rest) =
        .ok (year.natAbs, rest) := by
      rw [takeNumber_run hdigits hne (by simp) hrest, value_padded]
    by_cases hneg : year < 0
    · rw [if_pos hneg, List.cons_append, takeYear, Text.skipBlank_cons _ (by decide)]
      simp only [hnumber, bind, Except.bind]
      rw [if_pos (by omega)]
      congr 2
      omega
    · rw [if_neg hneg, List.cons_append, takeYear, Text.skipBlank_cons _ (by decide)]
      simp only [hnumber, bind, Except.bind]
      rw [if_pos (by omega)]
      congr 2
      omega

theorem daysInMonth_le (year : Int) (month : Nat) : daysInMonth year month ≤ 31 := by
  unfold daysInMonth
  grind

/-- Every date is read back from its standard text, also where its year has a sign. -/
theorem readLenient_text (d : Date) : readLenient d.text = .ok d := by
  obtain ⟨⟨hfirst, hlast⟩, ⟨hmonth, hmonth'⟩, hday, hday'⟩ := d.isDate
  have hdays := daysInMonth_le d.year d.month
  have hdash : ∀ rest : List Char, ∀ c, ('-' :: rest).head? = some c → c.isDigit = false := by
    intro rest c hc
    cases hc
    decide
  have hyear := takeYear_yearChars hfirst hlast
    (hdash (Decimal.fixed 2 d.month ++ '-' :: Decimal.fixed 2 d.day))
  have hmonthPart := takePart_fixed hmonth hmonth' (by decide) (hdash (Decimal.fixed 2 d.day))
  have hdayPart : takePart 31 (Decimal.fixed 2 d.day) = .ok (d.day, []) := by
    have hend : ∀ c, ([] : List Char).head? = some c → c.isDigit = false := by
      simp
    simpa using takePart_fixed hday (Nat.le_trans hday' hdays) (by decide) hend
  rw [readLenient, text, chars, String.toList_ofList, hyear]
  simp only [bind, Except.bind, takeDash_cons, hmonthPart, hdayPart, ofParts?_self]
  rfl

end ExpiryGate.Date
