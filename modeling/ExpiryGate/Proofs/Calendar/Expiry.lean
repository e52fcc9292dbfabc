import ExpiryGate.Calendar.Expiry
import ExpiryGate.Proofs.Calendar.Text
import ExpiryGate.Proofs.Folds

namespace ExpiryGate

namespace Date

/-- The day exists in the Gregorian calendar: every month has 31 days, but four of them have 30,
    and February has 28 or, in a leap year, 29. A leap year is one that 4 divides, unless 100
    divides it and 400 does not. -/
structure IsGregorian (year month day : Nat) : Prop where
  month_range : 1 ≤ month ∧ month ≤ 12
  day_range : 1 ≤ day ∧ day ≤ 31
  short : month = 4 ∨ month = 6 ∨ month = 9 ∨ month = 11 → day ≤ 30
  february : month = 2 → day ≤ 29
  leap : month = 2 → day = 29 → 4 ∣ year ∧ (100 ∣ year → 400 ∣ year)

theorem isLeapYear_natCast (year : Nat) :
    isLeapYear year = true ↔ 4 ∣ year ∧ (100 ∣ year → 400 ∣ year) := by
  simp only [isLeapYear, Bool.and_eq_true, Bool.or_eq_true, beq_iff_eq, bne_iff_ne]
  omega

/-- For years of up to four digits the days of the calendar are those of the Gregorian one. -/
theorem isDate_iff_isGregorian {year month day : Nat} (hyear : year ≤ 9999) :
    IsDate year month day ↔ IsGregorian year month day := by
  have hleap := isLeapYear_natCast year
  have hfirst : firstYear ≤ (year : Int) := by
    unfold firstYear
    omega
  have hlast : (year : Int) ≤ lastYear := by
    unfold lastYear
    omega
  unfold IsDate daysInMonth
  constructor
  · rintro ⟨_, hmonth, hlow, hhigh⟩
    constructor <;> grind
  · rintro ⟨hmonth, hday, hshort, hfebruary, hleapDay⟩
    refine ⟨⟨hfirst, hlast⟩, hmonth, hday.1, ?_⟩
    grind

namespace IsDashed

variable {cs year month day : List Char}

theorem digits_year (h : IsDashed cs year month day) : ∀ c ∈ year, c.isDigit = true :=
  fun c hc => h.digits c (List.mem_append_left day (List.mem_append_left month hc))

theorem digits_month (h : IsDashed cs year month day) : ∀ c ∈ month, c.isDigit = true :=
  fun c hc => h.digits c (List.mem_append_left day (List.mem_append_right year hc))

theorem digits_day (h : IsDashed cs year month day) : ∀ c ∈ day, c.isDigit = true :=
  fun c hc => h.digits c (List.mem_append_right (year ++ month) hc)

theorem exists_cons (h : IsDashed cs year month day) : ∃ c more, year = c :: more := by
  apply List.exists_cons_of_ne_nil
  rintro rfl
  cases h.length_year

theorem value_year_lt (h : IsDashed cs year month day) : Decimal.value year < 10000 := by
  have hlt := Decimal.value_lt h.digits_year
  rw [h.length_year] at hlt
  exact hlt

/-- The year is written back with the digits it had, leading zeros included. -/
theorem fixed_value_year (h : IsDashed cs year month day) :
    Decimal.fixed 4 (Decimal.value year) = year := by
  have hfixed := Decimal.fixed_value h.digits_year
  rw [h.length_year] at hfixed
  exact hfixed

end IsDashed

theorem skipBlank_of_forall {cs : List Char} (hblank : ∀ c ∈ cs, Text.isBlank c = false) :
    Text.skipBlank cs = cs := by
  cases cs with
  | nil => rfl
  | cons c cs => exact Text.skipBlank_cons cs (hblank c List.mem_cons_self)

theorem isBlank_of_isDigit {c : Char} (hc : c.isDigit = true) : Text.isBlank c = false :=
  have hascii := Decimal.ascii_of_isDigit hc
  Text.isBlank_eq_false_of_ascii hascii.2.1 hascii.2.2

theorem ne_dash_of_isDigit {c : Char} (hc : c.isDigit = true) : c ≠ '-' := by
  rintro rfl
  exact absurd hc (by decide)

/-- What stands in front of a dash ends a run of digits. -/
theorem head?_cons_dash (rest : List Char) :
    ∀ c, ('-' :: rest).head? = some c → c.isDigit = false := by
  intro c hc
  cases hc
  decide

/-- The first step of the reader, on characters: four digits up to the first dash, and no white
    space in the whole text. What follows the dash is left open. -/
theorem hasPlainYear_iff {cs : List Char} :
    hasPlainYear cs = true ↔
      (cs.takeWhile (· ≠ '-')).length = 4 ∧
        (∀ c ∈ cs.takeWhile (· ≠ '-'), c.isDigit = true) ∧ ∀ c ∈ cs, Text.isBlank c = false := by
  simp only [hasPlainYear, Bool.and_eq_true, decide_eq_true_eq, List.all_eq_true,
    Bool.not_eq_true', List.any_eq_false, Bool.not_eq_true, and_assoc]

/-- Where a dash is expected nothing else is passed over. -/
theorem expectDash_eq_ok {cs rest : List Char} (hdash : expectDash cs = .ok rest) :
    cs = '-' :: rest := by
  unfold expectDash at hdash
  split at hdash <;> cases hdash
  rfl

/-- A limited number is a run of digits at the start of the text. It need not be the whole run. -/
theorem takeNumber_eq_ok {most n : Nat} {cs rest : List Char} (hmost : 0 < most)
    (hnumber : takeNumber (some most) cs = .ok (n, rest)) :
    ∃ run, cs = run ++ rest ∧ 1 ≤ run.length ∧ run.length ≤ most ∧
      (∀ c ∈ run, c.isDigit = true) ∧ n = Decimal.value run := by
  cases cs with
  | nil => cases hnumber
  | cons c cs =>
    by_cases hc : c.isDigit = true
    · have hprefix : ((c :: cs).takeWhile Char.isDigit).take most <+: c :: cs :=
        (List.take_prefix _ _).trans (List.takeWhile_prefix _)
      have hone : 1 ≤ (((c :: cs).takeWhile Char.isDigit).take most).length := by
        simp only [List.takeWhile_cons, hc, if_true, List.length_take, List.length_cons]
        omega
      have hdigits : ∀ d ∈ ((c :: cs).takeWhile Char.isDigit).take most, d.isDigit = true :=
        fun d hd => List.all_eq_true.1 List.all_takeWhile d (List.mem_of_mem_take hd)
      simp only [takeNumber, hc, if_true] at hnumber
      cases hnumber
      refine ⟨_, ?_, hone, List.length_take_le _ _, hdigits, rfl⟩
      have hsplit := List.take_append_drop
        (((c :: cs).takeWhile Char.isDigit).take most).length (c :: cs)
      rw [← List.prefix_iff_eq_take.1 hprefix] at hsplit
      exact hsplit.symm
    · simp [takeNumber, hc] at hnumber

/-- Where there is no white space, a month or day that was read is one or two digits and nothing
    else. -/
theorem takePart_eq_ok {last n : Nat} {cs rest : List Char}
    (hblank : ∀ c ∈ cs, Text.isBlank c = false) (hpart : takePart last cs = .ok (n, rest)) :
    ∃ run, cs = run ++ rest ∧ (run.length = 1 ∨ run.length = 2) ∧
      (∀ c ∈ run, c.isDigit = true) ∧ n = Decimal.value run := by
  rw [takePart, skipBlank_of_forall hblank] at hpart
  obtain ⟨⟨m, behind⟩, hnumber, hpart⟩ := exists_of_bind_eq_ok hpart
  obtain ⟨run, hcs, hlow, hhigh, hdigits, hvalue⟩ := takeNumber_eq_ok (by decide) hnumber
  dsimp only at hpart
  split at hpart <;> cases hpart
  exact ⟨run, hcs, by omega, hdigits, hvalue⟩

/-- What the second step reads comes apart at its dashes: a year, a month and a day that ends the
    text. -/
theorem readDashed_eq_ok {cs : List Char} {d : Date} (hread : readDashed cs = .ok d) :
    ∃ behindYear behindMonth, takeYear cs = .ok (d.year, '-' :: behindYear) ∧
      takePart 12 behindYear = .ok (d.month, '-' :: behindMonth) ∧
      takePart 31 behindMonth = .ok (d.day, []) := by
  obtain ⟨⟨year, rest⟩, hyear, hread⟩ := exists_of_bind_eq_ok hread
  obtain ⟨behindYear, hdash, hread⟩ := exists_of_bind_eq_ok hread
  obtain ⟨⟨month, rest'⟩, hmonth, hread⟩ := exists_of_bind_eq_ok hread
  obtain ⟨behindMonth, hdash', hread⟩ := exists_of_bind_eq_ok hread
  obtain ⟨⟨day, rest''⟩, hday, hlast⟩ := exists_of_bind_eq_ok hread
  cases expectDash_eq_ok hdash
  cases expectDash_eq_ok hdash'
  dsimp only at hlast
  split at hlast
  · rename_i hend
    split at hlast
    · rename_i hparts
      cases hlast
      obtain ⟨rfl, rfl, rfl⟩ := ofParts?_eq_some_iff.1 hparts
      exact ⟨behindYear, behindMonth, hyear, hmonth, hend ▸ hday⟩
    · cases hlast
  · cases hlast

/-- The second step reads every expiry text as its day. -/
theorem readDashed_of_isExpiryText {cs : List Char} {d : Date} (htext : IsExpiryText cs d) :
    readDashed cs = .ok d := by
  obtain ⟨year, month, day, hdashed, hyearValue, hmonthValue, hdayValue⟩ := htext
  have hyearDigits := hdashed.digits_year
  have hmonthDigits := hdashed.digits_month
  have hdayDigits := hdashed.digits_day
  obtain ⟨rfl, hyearLength, hmonthLength, hdayLength, _⟩ := hdashed
  obtain ⟨_, ⟨hmonthLow, hmonthHigh⟩, hdayLow, hdayHigh⟩ := d.isDate
  have hdays := daysInMonth_le d.year d.month
  have hend : ∀ c, ([] : List Char).head? = some c → c.isDigit = false := by
    simp
  have hne : year ≠ [] := by
    rintro rfl
    simp at hyearLength
  have hyear := takeYear_run hyearDigits hne (Nat.le_of_eq hyearLength)
    (head?_cons_dash (month ++ '-' :: day))
  have hmonth := takePart_run hmonthDigits hmonthLength (hmonthValue ▸ hmonthLow)
    (hmonthValue ▸ hmonthHigh) (head?_cons_dash day)
  have hday : takePart 31 day = .ok (Decimal.value day, []) := by
    have hpart : takePart 31 (day ++ []) = .ok (Decimal.value day, []) :=
      takePart_run hdayDigits hdayLength (hdayValue ▸ hdayLow) (by omega) hend
    rwa [List.append_nil] at hpart
  have hparts : ofParts? (Decimal.value year : Int) (Decimal.value month) (Decimal.value day) =
      some d := by
    rw [← hyearValue, ← hmonthValue, ← hdayValue, ofParts?_self]
  simp only [readDashed, hyear, expectDash, hmonth, hday, hparts, bind, Except.bind, if_true]

/-- The first step keeps no date with dashes back. -/
theorem hasPlainYear_of_isDashed {cs year month day : List Char}
    (hdashed : IsDashed cs year month day) : hasPlainYear cs = true := by
  have hyearDigits := hdashed.digits_year
  have hmonthDigits := hdashed.digits_month
  have hdayDigits := hdashed.digits_day
  obtain ⟨rfl, hlength, _, _, _⟩ := hdashed
  have hyear : ∀ c ∈ year, decide (c ≠ '-') = true := fun c hc =>
    decide_eq_true (ne_dash_of_isDigit (hyearDigits c hc))
  have htake : (year ++ '-' :: (month ++ '-' :: day)).takeWhile (· ≠ '-') = year := by
    rw [List.takeWhile_append_of_pos hyear]
    simp
  rw [hasPlainYear_iff, htake]
  refine ⟨hlength, hyearDigits, fun c hc => ?_⟩
  have hdash : Text.isBlank '-' = false := by decide
  simp only [List.mem_append, List.mem_cons] at hc
  rcases hc with hc | rfl | hc | rfl | hc
  · exact isBlank_of_isDigit (hyearDigits c hc)
  · exact hdash
  · exact isBlank_of_isDigit (hmonthDigits c hc)
  · exact hdash
  · exact isBlank_of_isDigit (hdayDigits c hc)

/-- A plain year is read up to what follows its four digits, and no white space comes behind. -/
theorem takeYear_of_hasPlainYear {cs : List Char} (hplain : hasPlainYear cs = true) :
    ∃ year rest, cs = year ++ rest ∧ year.length = 4 ∧ (∀ c ∈ year, c.isDigit = true) ∧
      (∀ c ∈ rest, Text.isBlank c = false) ∧
      takeYear cs = .ok ((Decimal.value year : Int), rest) := by
  obtain ⟨hlength, hdigits, hblank⟩ := hasPlainYear_iff.1 hplain
  have hsplit := List.takeWhile_append_dropWhile (p := fun c => decide (c ≠ '-')) (l := cs)
  have hstop := List.head?_dropWhile_not (fun c => decide (c ≠ '-')) cs
  generalize cs.takeWhile (· ≠ '-') = year at hlength hdigits hsplit
  generalize cs.dropWhile (· ≠ '-') = rest at hsplit hstop
  subst hsplit
  have hne : year ≠ [] := by
    rintro rfl
    simp at hlength
  have hrest : ∀ c, rest.head? = some c → c.isDigit = false := by
    intro c hc
    have hdash : c = '-' := by
      simpa [hc] using hstop
    rw [hdash]
    decide
  exact ⟨year, rest, rfl, hlength, hdigits, fun c hc => hblank c (List.mem_append_right year hc),
    takeYear_run hdigits hne (Nat.le_of_eq hlength) hrest⟩

/-- The first step leaves only texts of which the second reads every character. -/
theorem isExpiryText_of_readDashed {cs : List Char} {d : Date} (hplain : hasPlainYear cs = true)
    (hread : readDashed cs = .ok d) : IsExpiryText cs d := by
  obtain ⟨year, rest, rfl, hlength, hdigits, hblank, htake⟩ := takeYear_of_hasPlainYear hplain
  obtain ⟨behindYear, behindMonth, hyear, hmonth, hday⟩ := readDashed_eq_ok hread
  rw [htake] at hyear
  obtain ⟨hyearValue, rfl⟩ := Prod.mk.inj (Except.ok.inj hyear)
  have hblankYear : ∀ c ∈ behindYear, Text.isBlank c = false :=
    fun c hc => hblank c (List.mem_cons_of_mem _ hc)
  obtain ⟨month, rfl, hmonthLength, hmonthDigits, hmonthValue⟩ := takePart_eq_ok hblankYear hmonth
  have hblankMonth : ∀ c ∈ behindMonth, Text.isBlank c = false :=
    fun c hc => hblankYear c (by simp [hc])
  obtain ⟨day, rfl, hdayLength, hdayDigits, hdayValue⟩ := takePart_eq_ok hblankMonth hday
  refine ⟨year, month, day, ⟨by simp, hlength, hmonthLength, hdayLength, ?_⟩, hyearValue.symm,
    hmonthValue, hdayValue⟩
  intro c hc
  simp only [List.mem_append] at hc
  rcases hc with (hc | hc) | hc
  · exact hdigits c hc
  · exact hmonthDigits c hc
  · exact hdayDigits c hc

/-- The reader and the grammar agree on each text and on the day that it names. -/
theorem ofExpiry?_eq_some_iff {text : String} {d : Date} :
    ofExpiry? text = some d ↔ IsExpiryText text.toList d := by
  unfold ofExpiry?
  constructor
  · intro hread
    split at hread
    · rename_i hplain
      cases hdashed : readDashed text.toList with
      | error fault => simp [hdashed, Except.toOption] at hread
      | ok found =>
        simp only [hdashed, Except.toOption, Option.some.injEq] at hread
        exact isExpiryText_of_readDashed hplain (hread ▸ hdashed)
    · cases hread
  · intro htext
    rw [readDashed_of_isExpiryText htext]
    obtain ⟨year, month, day, hdashed, _⟩ := htext
    rw [if_pos (hasPlainYear_of_isDashed hdashed)]
    rfl

/-- A text of the right form is an expiry text iff the calendar has the day of its numbers. -/
theorem exists_isExpiryText_iff {cs : List Char} :
    (∃ d, IsExpiryText cs d) ↔ ∃ year month day, IsDashed cs year month day ∧
      IsGregorian (Decimal.value year) (Decimal.value month) (Decimal.value day) := by
  constructor
  · rintro ⟨d, year, month, day, hdashed, hyearValue, hmonthValue, hdayValue⟩
    refine ⟨year, month, day, hdashed,
      (isDate_iff_isGregorian (Nat.le_of_lt_succ hdashed.value_year_lt)).1 ?_⟩
    rw [← hyearValue, ← hmonthValue, ← hdayValue]
    exact d.isDate
  · rintro ⟨year, month, day, hdashed, hday⟩
    have hdate := (isDate_iff_isGregorian (Nat.le_of_lt_succ hdashed.value_year_lt)).2 hday
    exact ⟨⟨_, _, _, hdate⟩, year, month, day, hdashed, rfl, rfl, rfl⟩

/-- The reader of expiry dates accepts exactly its grammar: four digits, a dash, one or two digits,
    a dash, one or two digits and nothing else, where the numbers are year, month and day of a
    Gregorian date, which is the date that is read. It reads nothing in any other text. -/
theorem ofExpiry?_accepts_grammar (text : String) :
    (∀ d, ofExpiry? text = some d ↔ ∃ year month day, IsDashed text.toList year month day ∧
        d.year = Decimal.value year ∧ d.month = Decimal.value month ∧
        d.day = Decimal.value day) ∧
      (ofExpiry? text = none ↔ ¬ ∃ year month day, IsDashed text.toList year month day ∧
        IsGregorian (Decimal.value year) (Decimal.value month) (Decimal.value day)) := by
  refine ⟨fun d => ofExpiry?_eq_some_iff, ?_⟩
  rw [← exists_isExpiryText_iff, Option.eq_none_iff_forall_ne_some, not_exists]
  simp only [ne_eq, ofExpiry?_eq_some_iff]

end Date

end ExpiryGate
