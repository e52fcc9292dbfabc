import ExpiryGate.Proofs.Toml.Dates
import ExpiryGate.Toml.Writer

namespace ExpiryGate

namespace Date

/-- No expiry text has the character. -/
def IsForeign (c : Char) : Prop :=
  c.isDigit = false ∧ c ≠ '-'

instance (c : Char) : Decidable (IsForeign c) :=
  inferInstanceAs (Decidable (c.isDigit = false ∧ c ≠ '-'))

/-- One foreign character makes a text no date. -/
theorem ofExpiry?_eq_none_of_isForeign {cs : List Char} (hforeign : ∃ c ∈ cs, IsForeign c) :
    ofExpiry? (String.ofList cs) = none := by
  rw [Option.eq_none_iff_forall_ne_some]
  intro date hread
  rw [ofExpiry?_eq_some_iff, String.toList_ofList] at hread
  obtain ⟨year, month, day, ⟨rfl, _, _, _, hdigits⟩, _⟩ := hread
  obtain ⟨c, hc, hdigit, hdash⟩ := hforeign
  have hrun : c ∈ year ++ month ++ day := by
    simpa [hdash] using hc
  rw [hdigits c hrun] at hdigit
  cases hdigit

/-- An expiry text starts with a digit and has a dash. -/
theorem ofExpiry?_signed (n : Int) : ofExpiry? (String.ofList (Decimal.signed n)) = none := by
  rw [Option.eq_none_iff_forall_ne_some]
  intro date hread
  rw [ofExpiry?_eq_some_iff, String.toList_ofList] at hread
  obtain ⟨year, month, day, hdashed, _⟩ := hread
  have heq := hdashed.eq_append
  cases n with
  | ofNat n =>
    have hdash : '-' ∈ Decimal.digits n := by
      change Decimal.digits n = _ at heq
      simp [heq]
    exact ne_dash_of_isDigit (Decimal.isDigit_of_mem_digits hdash) rfl
  | negSucc n =>
    obtain ⟨c, cs, rfl⟩ := hdashed.exists_cons
    have hfirst : '-' = c := (List.cons.inj heq).1
    exact ne_dash_of_isDigit (hdashed.digits_year c List.mem_cons_self) hfirst.symm

end Date

namespace Toml

open Date (IsForeign)

/-- The point of a float is written in every case. -/
theorem mem_point_plain (n : Decimal.Numeral) : '.' ∈ floatLayout.plain n := by
  simp only [Decimal.Layout.plain]
  split
  · simp [floatLayout]
  split <;> simp

/-- A float is written with a point or in letters, and never as a date. -/
theorem exists_foreign_floatChars (x : Binary64) : ∃ c ∈ floatChars x, IsForeign c := by
  cases x with
  | finite negative mantissa exponent =>
    have hpoint := mem_point_plain (.shortest floatLayout.tie mantissa exponent)
    refine ⟨'.', ?_, by decide⟩
    change '.' ∈ floatLayout.render negative mantissa exponent
    simp only [Decimal.Layout.render]
    have hbody : floatLayout.positional
        (Decimal.Numeral.shortest floatLayout.tie mantissa exponent).point = true := rfl
    rw [if_pos hbody]
    split
    · exact List.mem_cons_of_mem _ hpoint
    · exact hpoint
  | infinite negative => cases negative <;> exact ⟨'i', by decide, by decide⟩
  | nan => exact ⟨'n', by decide, by decide⟩

theorem mem_colon_chars (t : LocalTime) : ':' ∈ t.chars := by
  simp [LocalTime.chars]

/-- The value is a string or a local date that names this day. -/
inductive Value.Names : Value → Date → Prop
  | quoted {text : String} {date : Date} (hread : Date.ofExpiry? text = some date) :
      Names (.scalar (.string text)) date
  | bare (d : LocalDate) : Names (.scalar (.datetime (.date d))) d.date

/-- All values but strings, integers and local dates are written with a foreign character. -/
theorem Value.exists_foreign_or (v : Value) :
    (∃ text, v = .scalar (.string text)) ∨ (∃ n, v = .scalar (.integer n)) ∨
      (∃ d, v = .scalar (.datetime (.date d))) ∨
      v.plainText = String.ofList v.chars ∧ ∃ c ∈ v.chars, IsForeign c := by
  cases v with
  | scalar s =>
    cases s with
    | string text => exact .inl ⟨text, rfl⟩
    | integer n => exact .inr (.inl ⟨n, rfl⟩)
    | float x => exact .inr (.inr (.inr ⟨rfl, exists_foreign_floatChars x⟩))
    | boolean b => cases b <;> exact .inr (.inr (.inr ⟨rfl, 'e', by decide, by decide⟩))
    | datetime d =>
      right
      right
      cases d with
      | date d => exact .inl ⟨d, rfl⟩
      | time t => exact .inr ⟨rfl, ':', mem_colon_chars t, by decide⟩
      | dateTime d t offset =>
        refine .inr ⟨rfl, 'T', ?_, by decide⟩
        simp [Value.chars, Scalar.chars, Datetime.chars]
  | array items =>
    refine .inr (.inr (.inr ⟨rfl, '[', ?_, by decide⟩))
    simp [Value.chars]
  | table entries =>
    refine .inr (.inr (.inr ⟨rfl, '\x7b', ?_, by decide⟩))
    cases entries <;> simp [Value.chars]

theorem Value.plainText_date (d : LocalDate) :
    Value.plainText (.scalar (.datetime (.date d))) = String.ofList d.date.chars :=
  rfl

/-- Only the empty string is written as the empty text. -/
theorem Value.plainText_eq_empty_iff {v : Value} :
    v.plainText = "" ↔ v = .scalar (.string "") := by
  have hne : ∀ cs : List Char, cs ≠ [] → String.ofList cs ≠ "" := by
    intro cs hcs hempty
    apply hcs
    rw [← String.toList_ofList (l := cs), hempty]
    rfl
  constructor
  · intro hempty
    rcases v.exists_foreign_or with ⟨text, rfl⟩ | ⟨n, rfl⟩ | ⟨d, rfl⟩ | ⟨hchars, c, hc, _⟩
    · cases hempty
      rfl
    · refine absurd hempty (hne (Decimal.signed n) ?_)
      cases n with
      | ofNat n => exact Decimal.digits_ne_nil n
      | negSucc n => exact List.cons_ne_nil _ _
    · refine absurd hempty (hne d.date.chars ?_)
      rw [d.chars_eq]
      exact List.append_ne_nil_of_right_ne_nil _ (List.cons_ne_nil _ _)
    · rw [hchars] at hempty
      exact absurd hempty (hne v.chars (List.ne_nil_of_mem hc))
  · rintro rfl
    rfl

/-- The text of a value is an expiry date iff the value names it. -/
theorem Value.ofExpiry?_plainText_iff {v : Value} {date : Date} :
    Date.ofExpiry? v.plainText = some date ↔ v.Names date := by
  have hbare : ∀ d : LocalDate, Date.ofExpiry? (String.ofList d.date.chars) = some d.date := by
    intro d
    rw [Date.ofExpiry?_eq_some_iff, String.toList_ofList]
    exact d.isExpiryText_chars
  constructor
  · intro hread
    rcases v.exists_foreign_or with ⟨text, rfl⟩ | ⟨n, rfl⟩ | ⟨d, rfl⟩ | ⟨hchars, hforeign⟩
    · exact .quoted hread
    · change Date.ofExpiry? (String.ofList (Decimal.signed n)) = some date at hread
      rw [Date.ofExpiry?_signed] at hread
      cases hread
    · rw [plainText_date, hbare] at hread
      cases hread
      exact .bare d
    · rw [hchars, Date.ofExpiry?_eq_none_of_isForeign hforeign] at hread
      cases hread
  · intro hnames
    cases hnames with
    | quoted hread => exact hread
    | bare d => exact hbare d

end Toml

end ExpiryGate
