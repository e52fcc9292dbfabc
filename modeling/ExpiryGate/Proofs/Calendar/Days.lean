import ExpiryGate.Calendar.Date

namespace ExpiryGate

/-- The days of a year from its start to the end of a month. -/
def daysThrough (year : Int) : Nat → Nat
  | 0 => 0
  | month + 1 => daysThrough year month + daysInMonth year (month + 1)

/-- The days between the start of year 1 and the start of another year: 365 for each year, one more
    for each fourth of them, but one in four only of the centuries. -/
def daysBeforeYear (year : Int) : Int :=
  365 * (year - 1) + (year - 1) / 4 - (year - 1) / 100 + (year - 1) / 400

theorem daysThrough_succ (year : Int) (month : Nat) :
    daysThrough year (month + 1) = daysThrough year month + daysInMonth year (month + 1) :=
  rfl

theorem daysThrough_mono (year : Int) {month later : Nat} (hle : month ≤ later) :
    daysThrough year month ≤ daysThrough year later := by
  induction hle with
  | refl => exact Nat.le_refl _
  | step _ ih => exact Nat.le_trans ih (Nat.le_add_right _ _)

/-- A year has 366 days if it is a leap year, and 365 days otherwise. -/
theorem daysThrough_twelve (year : Int) :
    daysThrough year 12 = if isLeapYear year then 366 else 365 := by
  cases hleap : isLeapYear year <;> simp [daysThrough, daysInMonth, hleap]

/-- The rule for leap years as a condition on remainders, which the formula for the days counts. -/
theorem isLeapYear_iff (year : Int) :
    isLeapYear year = true ↔ year % 4 = 0 ∧ (year % 100 ≠ 0 ∨ year % 400 = 0) := by
  simp [isLeapYear]

/-- The formula agrees with the months of each year. -/
theorem daysBeforeYear_succ (year : Int) :
    daysBeforeYear (year + 1) = daysBeforeYear year + daysThrough year 12 := by
  rw [daysThrough_twelve]
  unfold daysBeforeYear
  by_cases hleap : isLeapYear year = true
  · rw [if_pos hleap]
    rw [isLeapYear_iff] at hleap
    omega
  · rw [if_neg hleap]
    rw [isLeapYear_iff] at hleap
    omega

theorem daysBeforeYear_mono {year later : Int} (hle : year ≤ later) :
    daysBeforeYear year ≤ daysBeforeYear later := by
  unfold daysBeforeYear
  omega

namespace Date

/-- The number of a day, where the first of January of year 1 has number one. Going to the next day
    adds one, and the order of dates is that of their numbers. -/
def dayNumber (d : Date) : Int :=
  daysBeforeYear d.year + daysThrough d.year (d.month - 1) + d.day

/-- The first day of 1970 has number 719163. -/
example : (⟨1970, 1, 1, by decide⟩ : Date).dayNumber = 719163 := by
  decide

theorem ofParts?_of_isDate {year : Int} {month day : Nat} (h : IsDate year month day) :
    ofParts? year month day = some ⟨year, month, day, h⟩ :=
  dif_pos h

theorem ofParts?_of_not_isDate {year : Int} {month day : Nat} (h : ¬ IsDate year month day) :
    ofParts? year month day = none :=
  dif_neg h

theorem eq_of_parts {a b : Date} (hyear : a.year = b.year) (hmonth : a.month = b.month)
    (hday : a.day = b.day) : a = b := by
  have hparts := ofParts?_eq_some_iff.2 ⟨hyear, hmonth, hday⟩
  rw [ofParts?_self] at hparts
  exact (Option.some.inj hparts).symm

theorem lt_trichotomy (a b : Date) : a < b ∨ a = b ∨ b < a := by
  rw [lt_def, lt_def]
  by_cases hparts : a.year = b.year ∧ a.month = b.month ∧ a.day = b.day
  · exact .inr (.inl (eq_of_parts hparts.1 hparts.2.1 hparts.2.2))
  · omega

theorem one_le_daysInMonth (year : Int) (month : Nat) : 1 ≤ daysInMonth year month := by
  unfold daysInMonth
  split <;> split <;> decide

/-- The following day by the place of the day in its month and of the month in its year. -/
theorem next?_eq (d : Date) :
    d.next? =
      if d.day < daysInMonth d.year d.month then ofParts? d.year d.month (d.day + 1)
      else if d.month < 12 then ofParts? d.year (d.month + 1) 1
      else ofParts? (d.year + 1) 1 1 := by
  obtain ⟨hyear, hmonth, hday⟩ := d.isDate
  unfold next?
  by_cases hinside : d.day < daysInMonth d.year d.month
  · rw [if_pos hinside, ofParts?_of_isDate ⟨hyear, hmonth, by omega⟩]
  · rw [if_neg hinside, ofParts?_of_not_isDate (by unfold IsDate; omega)]
    by_cases hbefore : d.month < 12
    · have hfirst : IsDate d.year (d.month + 1) 1 :=
        ⟨hyear, by omega, Nat.le_refl 1, one_le_daysInMonth d.year (d.month + 1)⟩
      rw [if_pos hbefore, ofParts?_of_isDate hfirst]
    · rw [if_neg hbefore, ofParts?_of_not_isDate (by unfold IsDate; omega)]

/-- The number of a day that is given by its parts, with the month counted from zero. -/
theorem dayNumber_of_parts {d : Date} {year : Int} {month day : Nat}
    (hparts : ofParts? year (month + 1) day = some d) :
    d.dayNumber = daysBeforeYear year + daysThrough year month + day := by
  obtain ⟨rfl, hmonth, rfl⟩ := ofParts?_eq_some_iff.1 hparts
  rw [dayNumber, hmonth, Nat.add_sub_cancel]

/-- Going to the next day adds one to the number, at the end of a month or a year as well. -/
theorem dayNumber_next {d e : Date} (hnext : d.next? = some e) :
    e.dayNumber = d.dayNumber + 1 := by
  obtain ⟨_, ⟨hmonthLow, hmonthHigh⟩, _, hday⟩ := d.isDate
  obtain ⟨month, hmonth⟩ : ∃ month, d.month = month + 1 := ⟨d.month - 1, by omega⟩
  have hnumber := dayNumber_of_parts (hmonth ▸ ofParts?_self d)
  rw [next?_eq] at hnext
  split at hnext
  · rw [hmonth] at hnext
    rw [dayNumber_of_parts hnext]
    omega
  · have hlast : d.day = daysInMonth d.year (month + 1) := by
      rw [← hmonth]
      omega
    split at hnext
    · rw [dayNumber_of_parts hnext, hmonth, daysThrough_succ]
      omega
    · have hyear := daysBeforeYear_succ d.year
      have htwelve : month = 11 := by omega
      subst htwelve
      rw [daysThrough_succ, ← hlast] at hyear
      rw [dayNumber_of_parts hnext]
      simp only [daysThrough]
      omega

theorem daysBeforeYear_lt_dayNumber (d : Date) : daysBeforeYear d.year < d.dayNumber := by
  obtain ⟨_, _, hday, _⟩ := d.isDate
  unfold dayNumber
  omega

/-- What is left of the year after a month has as many days as the year less those before. -/
theorem dayNumber_le_of_month_le (d : Date) {month : Nat} (hmonth : d.month ≤ month) :
    d.dayNumber ≤ daysBeforeYear d.year + daysThrough d.year month := by
  obtain ⟨_, ⟨hmonthLow, _⟩, _, hday⟩ := d.isDate
  have hthis := daysThrough_succ d.year (d.month - 1)
  rw [Nat.sub_add_cancel hmonthLow] at hthis
  have hmono := daysThrough_mono d.year hmonth
  unfold dayNumber
  omega

/-- The number of a day does not exceed the days up to the end of its year. -/
theorem dayNumber_le_daysBeforeYear_succ (d : Date) : d.dayNumber ≤ daysBeforeYear (d.year + 1) := by
  obtain ⟨_, ⟨_, hmonth⟩, _⟩ := d.isDate
  rw [daysBeforeYear_succ]
  exact d.dayNumber_le_of_month_le hmonth

/-- Later days have greater numbers, whether they differ in year, month or day. -/
theorem dayNumber_lt_of_lt {a b : Date} (hlt : a < b) : a.dayNumber < b.dayNumber := by
  rw [lt_def] at hlt
  rcases hlt with hyear | ⟨hyear, hmonth | ⟨hmonth, hday⟩⟩
  · calc a.dayNumber ≤ daysBeforeYear (a.year + 1) := a.dayNumber_le_daysBeforeYear_succ
      _ ≤ daysBeforeYear b.year := daysBeforeYear_mono hyear
      _ < b.dayNumber := b.daysBeforeYear_lt_dayNumber
  · have hle := a.dayNumber_le_of_month_le (Nat.le_sub_one_of_lt hmonth)
    obtain ⟨_, _, hday, _⟩ := b.isDate
    rw [hyear] at hle
    unfold dayNumber at hle ⊢
    omega
  · unfold dayNumber
    rw [hyear, hmonth]
    omega

/-- Dates are ordered as their numbers are, so that comparing them is comparing integers. -/
theorem dayNumber_lt_iff {a b : Date} : a.dayNumber < b.dayNumber ↔ a < b := by
  constructor
  · intro hnumber
    rcases lt_trichotomy a b with hlt | rfl | hgt
    · exact hlt
    · omega
    · have := dayNumber_lt_of_lt hgt
      omega
  · exact dayNumber_lt_of_lt

theorem eq_of_dayNumber_eq {a b : Date} (hnumber : a.dayNumber = b.dayNumber) : a = b := by
  rcases lt_trichotomy a b with hlt | heq | hgt
  · have := dayNumber_lt_of_lt hlt
    omega
  · exact heq
  · have := dayNumber_lt_of_lt hgt
    omega

/-- Before the last day of the calendar there is always a next one. -/
theorem exists_next?_of_lt {a b : Date} (hlt : a < b) : ∃ e, a.next? = some e := by
  obtain ⟨hyear, hmonth, hday⟩ := a.isDate
  obtain ⟨hyear', hmonth', hday'⟩ := b.isDate
  rw [next?_eq]
  split
  · exact ⟨_, ofParts?_of_isDate ⟨hyear, hmonth, by omega⟩⟩
  · split
    · exact ⟨_, ofParts?_of_isDate
        ⟨hyear, by omega, Nat.le_refl 1, one_le_daysInMonth a.year (a.month + 1)⟩⟩
    · -- On New Year's Eve only a day of a later year can follow.
      have hlater : a.year < b.year := by
        rw [lt_def] at hlt
        rcases hlt with hlt | ⟨hsame, hlt | ⟨hsameMonth, hlt⟩⟩
        · exact hlt
        · omega
        · have hlength : daysInMonth a.year a.month = daysInMonth b.year b.month := by
            rw [hsame, hsameMonth]
          omega
      exact ⟨_, ofParts?_of_isDate
        ⟨by omega, by decide, Nat.le_refl 1, one_le_daysInMonth (a.year + 1) 1⟩⟩

/-- Of several steps from a day the first one can be taken off as well as the last one. -/
theorem later?_succ (d : Date) (count : Nat) :
    d.later? (count + 1) = d.next?.bind fun e => e.later? count := by
  induction count with
  | zero => cases hnext : d.next? <;> simp [later?, hnext]
  | succ count ih =>
    rw [later?, ih, Option.bind_assoc]
    rfl

/-- So many steps lead from one day to another iff their numbers differ by so much. By induction on
    the number of steps; the first one exists because a later day does. -/
theorem later?_eq_some_iff {a b : Date} {count : Nat} :
    a.later? count = some b ↔ b.dayNumber = a.dayNumber + count := by
  induction count generalizing a with
  | zero =>
    rw [later?, Option.some.injEq]
    constructor
    · rintro rfl
      simp
    · intro hnumber
      exact eq_of_dayNumber_eq (by omega)
  | succ count ih =>
    rw [later?_succ, Option.bind_eq_some_iff]
    constructor
    · rintro ⟨e, hnext, hlater⟩
      rw [ih.1 hlater, dayNumber_next hnext]
      omega
    · intro hnumber
      have hlt : a.dayNumber < b.dayNumber := by omega
      obtain ⟨e, hnext⟩ := exists_next?_of_lt (dayNumber_lt_iff.1 hlt)
      refine ⟨e, hnext, ih.2 ?_⟩
      rw [hnumber, dayNumber_next hnext]
      omega

/-- The century 2100 is no leap year. -/
example : (⟨2100, 2, 28, by decide⟩ : Date).later? 1 = some ⟨2100, 3, 1, by decide⟩ := by
  decide

/-- A day is no later than another iff some number of steps leads from it to the other one, and all
    days on the way exist. -/
theorem le_iff_exists_later? {a b : Date} : a ≤ b ↔ ∃ count, a.later? count = some b := by
  rw [← not_lt_iff, ← dayNumber_lt_iff]
  simp only [later?_eq_some_iff]
  constructor
  · intro hle
    exact ⟨(b.dayNumber - a.dayNumber).toNat, by omega⟩
  · rintro ⟨count, hnumber⟩
    omega

/-- A day is before another iff one or more steps lead from it to the other one. -/
theorem lt_iff_exists_later? {a b : Date} :
    a < b ↔ ∃ count, 1 ≤ count ∧ a.later? count = some b := by
  rw [← dayNumber_lt_iff]
  simp only [later?_eq_some_iff]
  constructor
  · intro hlt
    exact ⟨(b.dayNumber - a.dayNumber).toNat, by omega, by omega⟩
  · rintro ⟨count, hcount, hnumber⟩
    omega

end Date

end ExpiryGate
