import ExpiryGate.Proofs.Calendar.Spellings
import ExpiryGate.Toml.Reader

namespace ExpiryGate.Toml

/-- A number of fixed width is read from just one sequence of digits. -/
theorem takeFixed_eq_some_iff {count n : Nat} {cs rest : List Char} :
    takeFixed count cs = some (n, rest) ↔
      n < tenPow count ∧ cs = Decimal.fixed count n ++ rest := by
  constructor
  · intro htake
    simp only [takeFixed] at htake
    split at htake
    · rename_i hrun
      cases htake
      have hdigits : ∀ c ∈ cs.take count, c.isDigit = true := List.all_eq_true.1 hrun.2
      have hlt := Decimal.value_lt hdigits
      have hfixed := Decimal.fixed_value hdigits
      rw [hrun.1] at hlt hfixed
      exact ⟨hlt, by rw [hfixed, List.take_append_drop]⟩
    · cases htake
  · rintro ⟨hlt, rfl⟩
    have hlength := Decimal.length_fixed count n
    have hdigits : (Decimal.fixed count n).all Char.isDigit = true :=
      List.all_eq_true.2 fun c hc => Decimal.isDigit_of_mem_fixed hc
    simp only [takeFixed, List.take_left' hlength, List.drop_left' hlength, hlength, hdigits,
      Decimal.value_fixed hlt, and_self, if_true]

theorem dropChar_eq_some_iff {c : Char} {cs rest : List Char} :
    dropChar c cs = some rest ↔ cs = c :: rest := by
  cases cs with
  | nil => simp [dropChar]
  | cons d cs => simp [dropChar]

theorem LocalDate.ofParts?_eq_some_iff {year month day : Nat} {d : LocalDate} :
    LocalDate.ofParts? year month day = some d ↔
      d.date.year = year ∧ d.date.month = month ∧ d.date.day = day := by
  rw [← Date.ofParts?_eq_some_iff, LocalDate.ofParts?]
  constructor
  · intro hparts
    split at hparts
    · rename_i date hdate
      split at hparts <;> cases hparts
      exact hdate
    · cases hparts
  · intro hparts
    rw [hparts]
    exact dif_pos d.fourDigits

theorem LocalDate.chars_eq (d : LocalDate) :
    d.date.chars = Decimal.fixed 4 d.date.year.toNat ++
      '-' :: (Decimal.fixed 2 d.date.month ++ '-' :: Decimal.fixed 2 d.date.day) :=
  Date.chars_eq d.fourDigits

/-- A date is read from its standard text and from no other text. -/
theorem takeDate_eq_some_iff {cs rest : List Char} {d : LocalDate} :
    takeDate cs = some (d, rest) ↔ cs = d.date.chars ++ rest := by
  rw [d.chars_eq]
  constructor
  · intro htake
    simp only [takeDate, Option.bind_eq_bind, Option.bind_eq_some_iff, Prod.exists,
      Option.some.injEq, Prod.mk.injEq] at htake
    obtain ⟨year, _, hyear, _, hdash, month, _, hmonth, _, hdash', day, _, hday, _, hparts, rfl,
      rfl⟩ := htake
    obtain ⟨_, rfl⟩ := takeFixed_eq_some_iff.1 hyear
    obtain rfl := dropChar_eq_some_iff.1 hdash
    obtain ⟨_, rfl⟩ := takeFixed_eq_some_iff.1 hmonth
    obtain rfl := dropChar_eq_some_iff.1 hdash'
    obtain ⟨_, rfl⟩ := takeFixed_eq_some_iff.1 hday
    obtain ⟨hy, hm, hd⟩ := LocalDate.ofParts?_eq_some_iff.1 hparts
    simp [hy, hm, hd]
  · rintro rfl
    obtain ⟨hlow, hhigh⟩ := d.fourDigits
    have hyearLt : d.date.year.toNat < tenPow 4 := by
      change _ < 10000
      omega
    have hmonthLt : d.date.month < tenPow 2 := d.date.month_lt
    have hdayLt : d.date.day < tenPow 2 := d.date.day_lt
    have hparts : LocalDate.ofParts? d.date.year.toNat d.date.month d.date.day = some d :=
      LocalDate.ofParts?_eq_some_iff.2 ⟨by omega, rfl, rfl⟩
    simp only [takeDate, List.append_assoc, List.cons_append,
      takeFixed_eq_some_iff.2 ⟨hyearLt, rfl⟩, takeFixed_eq_some_iff.2 ⟨hmonthLt, rfl⟩,
      takeFixed_eq_some_iff.2 ⟨hdayLt, rfl⟩, dropChar_eq_some_iff.2 rfl, hparts,
      Option.bind_eq_bind, Option.bind_some]

/-- A literal is a local date iff it is the standard text of one. -/
theorem Datetime.read?_eq_date_iff {cs : List Char} {d : LocalDate} :
    Datetime.read? cs = some (.date d) ↔ cs = d.date.chars := by
  rw [← List.append_nil d.date.chars, ← takeDate_eq_some_iff, Datetime.read?]
  constructor
  · intro hread
    split at hread
    · rename_i hdate
      cases hread
      exact hdate
    · -- What follows the date makes it a date with a time.
      split at hread
      · simp only [Option.bind_eq_bind, Option.bind_eq_some_iff, Option.some.injEq, reduceCtorEq,
          and_false, exists_false] at hread
      · cases hread
    · split at hread <;> cases hread
  · intro hdate
    rw [hdate]

/-- A word is read as a local date iff it is the standard text of the date. -/
theorem readWord?_eq_date_iff {source word : List Char} {d : LocalDate} :
    readWord? source word = some (.leaf source (.datetime (.date d))) ↔ word = d.date.chars := by
  rw [← Datetime.read?_eq_date_iff, readWord?]
  constructor
  · intro hread
    split at hread
    · cases hread
    split at hread
    · cases hread
    split at hread
    · rename_i hdatetime
      cases hread
      exact hdatetime
    · obtain ⟨literal, _, hnode⟩ := Option.map_eq_some_iff.1 hread
      cases literal <;> cases hnode
  · intro hread
    have htrue : Datetime.read? "true".toList = none := by decide
    have hfalse : Datetime.read? "false".toList = none := by decide
    rw [if_neg, if_neg, hread]
    · rintro rfl
      rw [hfalse] at hread
      cases hread
    · rintro rfl
      rw [htrue] at hread
      cases hread

theorem LocalDate.length_chars (d : LocalDate) : d.date.chars.length = 10 :=
  Date.length_chars d.fourDigits

/-- The text of a local date is an expiry text of its day, so that quoting one changes no expiry. -/
theorem LocalDate.isExpiryText_chars (d : LocalDate) : Date.IsExpiryText d.date.chars d.date :=
  Date.isExpiryText_chars d.fourDigits

/-- An expiry text of ten characters is the standard text of its day, whose year has four digits. -/
theorem eq_chars_of_isExpiryText {word : List Char} {date : Date} (hlength : word.length = 10)
    (htext : Date.IsExpiryText word date) :
    ∃ d : LocalDate, d.date = date ∧ word = d.date.chars :=
  ⟨⟨date, (Date.isExpiryText_iff.1 htext).1⟩, rfl, Date.eq_chars_of_isExpiryText hlength htext⟩

end ExpiryGate.Toml
