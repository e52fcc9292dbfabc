import ExpiryGate.Calendar.Text
import ExpiryGate.Proofs.Calendar.Expiry
import Mathlib.Data.List.Nodup
import Mathlib.Data.List.ProdSigma

namespace ExpiryGate

namespace Decimal

/-- The numerals of one or two digits for a number, a leading zero first with and then without. -/
def shortNumerals (n : Nat) : List (List Char) :=
  if n < 10 then [fixed 2 n, fixed 1 n] else [fixed 2 n]

/-- Numbers below ten have a second numeral, without the leading zero. -/
theorem length_shortNumerals (n : Nat) :
    (shortNumerals n).length = if n < 10 then 2 else 1 := by
  unfold shortNumerals
  split <;> rfl

theorem nodup_shortNumerals (n : Nat) : (shortNumerals n).Nodup := by
  unfold shortNumerals
  split
  · have hne : fixed 2 n ≠ fixed 1 n := by
      intro heq
      have hlength := congrArg List.length heq
      rw [length_fixed, length_fixed] at hlength
      cases hlength
    simpa using hne
  · exact List.nodup_singleton _

theorem fixed_two_mem_shortNumerals (n : Nat) : fixed 2 n ∈ shortNumerals n := by
  unfold shortNumerals
  split <;> exact List.mem_cons_self

/-- A run of one or two digits is a numeral of just the number that is its value. -/
theorem mem_shortNumerals_iff {n : Nat} (hn : n < 100) {run : List Char} :
    run ∈ shortNumerals n ↔
      (run.length = 1 ∨ run.length = 2) ∧ (∀ c ∈ run, c.isDigit = true) ∧ n = value run := by
  constructor
  · intro hrun
    have hcases : run = fixed 2 n ∨ n < 10 ∧ run = fixed 1 n := by
      unfold shortNumerals at hrun
      split at hrun <;> simp_all
    rcases hcases with rfl | ⟨hlt, rfl⟩
    · exact ⟨.inr (length_fixed 2 n), fun c hc => isDigit_of_mem_fixed hc, (value_fixed hn).symm⟩
    · exact ⟨.inl (length_fixed 1 n), fun c hc => isDigit_of_mem_fixed hc, (value_fixed hlt).symm⟩
  · rintro ⟨hlength, hdigits, rfl⟩
    have hfixed := fixed_value hdigits
    have hlt := value_lt hdigits
    unfold shortNumerals
    rcases hlength with hone | htwo
    · rw [hone] at hfixed hlt
      change value run < 10 at hlt
      rw [if_pos hlt, hfixed]
      simp
    · rw [htwo] at hfixed
      rw [hfixed]
      split <;> simp

/-- A leading zero does not change the value. -/
theorem leftpad_two {run : List Char} (hlength : run.length = 1 ∨ run.length = 2)
    (hdigits : ∀ c ∈ run, c.isDigit = true) : List.leftpad 2 '0' run = fixed 2 (value run) := by
  have hpadded : (List.leftpad 2 '0' run).length = 2 := by
    rw [List.length_leftpad]
    omega
  have hvalue : value (List.leftpad 2 '0' run) = value run := by
    rcases hlength with hone | htwo
    · simp [List.leftpad, hone, value, digitValue]
    · simp [List.leftpad, htwo]
  have hall : ∀ c ∈ List.leftpad 2 '0' run, c.isDigit = true := by
    intro c hc
    rcases List.mem_append.1 hc with hzero | hrun
    · rw [List.eq_of_mem_replicate hzero]
      decide
    · exact hdigits c hrun
  have hfixed := fixed_value hall
  rw [hpadded, hvalue] at hfixed
  exact hfixed.symm

end Decimal

namespace Date

/-- The standard text of a day whose year has four digits. -/
theorem chars_eq {d : Date} (hyear : 0 ≤ d.year ∧ d.year ≤ 9999) :
    d.chars = Decimal.fixed 4 d.year.toNat ++
      '-' :: (Decimal.fixed 2 d.month ++ '-' :: Decimal.fixed 2 d.day) := by
  rw [chars, yearChars, if_pos hyear]

theorem length_chars {d : Date} (hyear : 0 ≤ d.year ∧ d.year ≤ 9999) : d.chars.length = 10 := by
  simp [chars_eq hyear, Decimal.length_fixed]

theorem month_lt (d : Date) : d.month < 100 := by
  obtain ⟨_, ⟨_, hmonth⟩, _⟩ := d.isDate
  omega

theorem day_lt (d : Date) : d.day < 100 := by
  obtain ⟨_, _, _, hday⟩ := d.isDate
  have hdays := daysInMonth_le d.year d.month
  omega

/-- An expiry text has a year of four digits and short numerals for month and day. -/
theorem isExpiryText_iff {cs : List Char} {d : Date} :
    IsExpiryText cs d ↔ (0 ≤ d.year ∧ d.year ≤ 9999) ∧
      ∃ month ∈ Decimal.shortNumerals d.month, ∃ day ∈ Decimal.shortNumerals d.day,
        cs = Decimal.fixed 4 d.year.toNat ++ '-' :: (month ++ '-' :: day) := by
  simp only [Decimal.mem_shortNumerals_iff d.month_lt, Decimal.mem_shortNumerals_iff d.day_lt]
  constructor
  · rintro ⟨year, month, day, hdashed, hyearValue, hmonthValue, hdayValue⟩
    have hlt := hdashed.value_year_lt
    rw [hyearValue, Int.toNat_natCast, hdashed.fixed_value_year]
    exact ⟨by omega, month, ⟨hdashed.length_month, hdashed.digits_month, hmonthValue⟩, day,
      ⟨hdashed.length_day, hdashed.digits_day, hdayValue⟩, hdashed.eq_append⟩
  · rintro ⟨hyear, month, ⟨hmonthLength, hmonthDigits, hmonthValue⟩, day,
      ⟨hdayLength, hdayDigits, hdayValue⟩, rfl⟩
    have hvalue : Decimal.value (Decimal.fixed 4 d.year.toNat) = d.year.toNat :=
      Decimal.value_fixed (by change _ < 10000; omega)
    refine ⟨_, month, day, ⟨rfl, Decimal.length_fixed .., hmonthLength, hdayLength, ?_⟩, ?_,
      hmonthValue, hdayValue⟩
    · simp only [List.mem_append, or_imp, forall_and]
      exact ⟨⟨fun c hc => Decimal.isDigit_of_mem_fixed hc, hmonthDigits⟩, hdayDigits⟩
    · omega

/-- The standard text of a day whose year has four digits is one of its expiry texts. -/
theorem isExpiryText_chars {d : Date} (hyear : 0 ≤ d.year ∧ d.year ≤ 9999) :
    IsExpiryText d.chars d :=
  isExpiryText_iff.2 ⟨hyear, Decimal.fixed 2 d.month, Decimal.fixed_two_mem_shortNumerals d.month,
    Decimal.fixed 2 d.day, Decimal.fixed_two_mem_shortNumerals d.day, chars_eq hyear⟩

/-- The standard text of a day whose year has four digits is read back as the day. -/
theorem ofExpiry?_text {d : Date} (hyear : 0 ≤ d.year ∧ d.year ≤ 9999) :
    ofExpiry? d.text = some d := by
  rw [ofExpiry?_eq_some_iff, text, String.toList_ofList]
  exact isExpiryText_chars hyear

/-- The sign of another year is no digit. -/
theorem ofExpiry?_text_eq_none {d : Date} (hyear : ¬ (0 ≤ d.year ∧ d.year ≤ 9999)) :
    ofExpiry? d.text = none := by
  rw [Option.eq_none_iff_forall_ne_some]
  intro other hread
  rw [ofExpiry?_eq_some_iff, text, String.toList_ofList] at hread
  obtain ⟨year, month, day, hdashed, _⟩ := hread
  obtain ⟨c, cs, rfl⟩ := hdashed.exists_cons
  have hfirst : c.isDigit = true := hdashed.digits_year c List.mem_cons_self
  have heq := hdashed.eq_append
  rw [chars, yearChars, if_neg hyear, List.cons_append, List.cons_append] at heq
  have hsign := (List.cons.inj heq).1
  rw [← hsign] at hfirst
  split at hfirst <;> exact absurd hfirst (by decide)

/-- An expiry text becomes the standard text of its day by filling up month and day. -/
theorem exists_isDashed_leftpad {cs : List Char} {d : Date} (htext : IsExpiryText cs d) :
    ∃ year month day, IsDashed cs year month day ∧
      d.chars = year ++ '-' :: (List.leftpad 2 '0' month ++ '-' :: List.leftpad 2 '0' day) := by
  have hyear := (isExpiryText_iff.1 htext).1
  obtain ⟨year, month, day, hdashed, hyearValue, hmonthValue, hdayValue⟩ := htext
  refine ⟨year, month, day, hdashed, ?_⟩
  rw [chars_eq hyear, hyearValue, Int.toNat_natCast, hdashed.fixed_value_year, hmonthValue,
    hdayValue, Decimal.leftpad_two hdashed.length_month hdashed.digits_month,
    Decimal.leftpad_two hdashed.length_day hdashed.digits_day]

/-- An expiry text of ten characters has all its leading zeros. -/
theorem eq_chars_of_isExpiryText {cs : List Char} {d : Date} (hlength : cs.length = 10)
    (htext : IsExpiryText cs d) : cs = d.chars := by
  obtain ⟨year, month, day, hdashed, hchars⟩ := exists_isDashed_leftpad htext
  obtain ⟨rfl, hyear, hmonth, hday, _⟩ := hdashed
  simp only [List.length_append, List.length_cons] at hlength
  have hmonthLength : month.length = 2 := by omega
  have hdayLength : day.length = 2 := by omega
  rw [hchars]
  simp [List.leftpad, hmonthLength, hdayLength]

/-- The texts that name a day: a year of four digits, and month and day with and without their
    leading zeros, where they have any. -/
def expiryTexts (d : Date) : List String :=
  if 0 ≤ d.year ∧ d.year ≤ 9999 then
    (Decimal.shortNumerals d.month ×ˢ Decimal.shortNumerals d.day).map fun run =>
      String.ofList (Decimal.fixed 4 d.year.toNat ++ '-' :: (run.1 ++ '-' :: run.2))
  else []

/-- The listed texts are all that are read as the day, and nothing else is. -/
theorem mem_expiryTexts_iff {text : String} {d : Date} :
    text ∈ d.expiryTexts ↔ ofExpiry? text = some d := by
  rw [ofExpiry?_eq_some_iff, isExpiryText_iff]
  unfold expiryTexts
  split
  · rename_i hyear
    simp only [hyear, true_and, List.mem_map, List.mem_product, Prod.exists]
    constructor
    · rintro ⟨month, day, ⟨hmonth, hday⟩, rfl⟩
      exact ⟨month, hmonth, day, hday, String.toList_ofList⟩
    · rintro ⟨month, hmonth, day, hday, htext⟩
      exact ⟨month, day, ⟨hmonth, hday⟩, by rw [← htext, String.ofList_toList]⟩
  · rename_i hyear
    simp [hyear]

example : (⟨999, 6, 7, by decide⟩ : Date).expiryTexts =
    ["0999-06-07", "0999-06-7", "0999-6-07", "0999-6-7"] := by
  decide

/-- A day has one, two or four expiry texts, and none if its year has a sign in its standard text.
    -/
theorem length_expiryTexts (d : Date) :
    d.expiryTexts.length =
      if 0 ≤ d.year ∧ d.year ≤ 9999 then
        (if d.month < 10 then 2 else 1) * (if d.day < 10 then 2 else 1)
      else 0 := by
  unfold expiryTexts
  split
  · rw [List.length_map, List.length_product, Decimal.length_shortNumerals,
      Decimal.length_shortNumerals]
  · rfl

/-- The first dash ends the month. -/
theorem append_dash_inj {run other rest behind : List Char} (hrun : ∀ c ∈ run, c.isDigit = true)
    (hother : ∀ c ∈ other, c.isDigit = true)
    (heq : run ++ '-' :: rest = other ++ '-' :: behind) : run = other ∧ rest = behind := by
  have hleft := Decimal.takeWhile_isDigit_append hrun (head?_cons_dash rest)
  have hright := Decimal.takeWhile_isDigit_append hother (head?_cons_dash behind)
  rw [heq] at hleft
  obtain rfl := hleft.1.symm.trans hright.1
  exact ⟨rfl, (List.cons.inj (hleft.2.symm.trans hright.2)).2⟩

/-- No text is listed twice, so that the length of the list is the number of texts. -/
theorem nodup_expiryTexts (d : Date) : d.expiryTexts.Nodup := by
  unfold expiryTexts
  split
  · refine List.Nodup.map_on ?_ ((Decimal.nodup_shortNumerals d.month).product
      (Decimal.nodup_shortNumerals d.day))
    rintro ⟨month, day⟩ hmem ⟨month', day'⟩ hmem' heq
    rw [List.mem_product, Decimal.mem_shortNumerals_iff d.month_lt] at hmem hmem'
    have htail := List.append_cancel_left (String.ofList_injective heq)
    obtain ⟨rfl, rfl⟩ := append_dash_inj hmem.1.2.1 hmem'.1.2.1 (List.cons.inj htail).2
    rfl
  · exact List.nodup_nil

end Date

end ExpiryGate
