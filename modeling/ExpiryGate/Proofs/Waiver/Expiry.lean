import ExpiryGate.Proofs.Toml.Texts
import ExpiryGate.Proofs.Waiver.Standing
import ExpiryGate.Waiver.Toml

namespace ExpiryGate.Waiver

open Toml (Value LocalDate readWord?)

/-- The waiver whose expiry has this value. -/
def ofValue (id reason : Option String) (value : Option Value) : Waiver :=
  ofFields id (value.map Value.plainText) reason

variable {id reason : Option String} {value : Option Value} {today : Date}

/-- The expiry of a waiver is the text of its value, if there is one. -/
theorem expires_ofValue_iff {P : String → Prop} :
    (∃ text, (ofValue id reason value).expires = some text ∧ P text) ↔
      ∃ v, value = some v ∧ P v.plainText := by
  cases value <;> simp [ofValue, ofFields]

/-- No value but the empty string counts as a missing expiry. -/
theorem standing_ofValue_eq_missingExpiry_iff :
    (ofValue id reason value).standing today = .missingExpiry ↔
      value = none ∨ value = some (.scalar (.string "")) := by
  rw [standing_eq_missingExpiry_iff]
  cases value with
  | none => simp [ofValue, ofFields]
  | some v => simp [ofValue, ofFields, Value.plainText_eq_empty_iff]

theorem expiryOf_date (source : List Char) (d : LocalDate) :
    expiryOf (.leaf source (.datetime (.date d))) = .ok (String.ofList d.date.chars) :=
  rfl

theorem expiryOf_string (source : List Char) (text : String) :
    expiryOf (.leaf source (.string text)) = .ok text :=
  rfl

/-- The words that are read as local dates are the expiry texts with all their leading zeros. -/
theorem exists_readWord?_eq_date_iff {source word : List Char} :
    (∃ d, readWord? source word = some (.leaf source (.datetime (.date d)))) ↔
      word.length = 10 ∧ ∃ date, Date.ofExpiry? (String.ofList word) = some date := by
  simp only [Toml.readWord?_eq_date_iff, Date.ofExpiry?_eq_some_iff, String.toList_ofList]
  constructor
  · rintro ⟨d, rfl⟩
    exact ⟨d.length_chars, d.date, d.isExpiryText_chars⟩
  · rintro ⟨hlength, date, htext⟩
    obtain ⟨d, _, hword⟩ := Toml.eq_chars_of_isExpiryText hlength htext
    exact ⟨d, hword⟩

/-- A waiver misses its expiry iff there is no value or the empty string. It is active or expired
    with a date iff the value is a string or a local date that names the date. It is unreadable in
    every other case: no other value is written as an expiry date. The words read as local dates are
    exactly the expiry texts of ten characters, and the expiry is the same if they are quoted. -/
theorem standing_ofValue (id reason : Option String) (value : Option Value) (today : Date) :
    let w := ofValue id reason value
    (w.standing today = .missingExpiry ↔ value = none ∨ value = some (.scalar (.string ""))) ∧
      (∀ date, w.standing today = .active date ↔
        today ≤ date ∧ ∃ v, value = some v ∧ v.Names date) ∧
      (∀ date, w.standing today = .expired date ↔
        date < today ∧ ∃ v, value = some v ∧ v.Names date) ∧
      (w.standing today = .invalidDate ↔
        ∃ v, value = some v ∧ v ≠ .scalar (.string "") ∧ ∀ date, ¬ v.Names date) ∧
      ∀ source word,
        ((∃ d, readWord? source word = some (.leaf source (.datetime (.date d)))) ↔
          word.length = 10 ∧ ∃ date, Date.ofExpiry? (String.ofList word) = some date) ∧
        ∀ d, readWord? source word = some (.leaf source (.datetime (.date d))) →
          Date.ofExpiry? (String.ofList word) = some d.date ∧
            ∀ place, expiryOf (.leaf source (.datetime (.date d))) =
              expiryOf (.leaf place (.string (String.ofList word))) := by
  intro w
  refine ⟨standing_ofValue_eq_missingExpiry_iff, fun date => ?_, fun date => ?_, ?_,
    fun source word => ⟨exists_readWord?_eq_date_iff, fun d hread => ?_⟩⟩
  · rw [standing_eq_active_iff, expires_ofValue_iff]
    simp only [Value.ofExpiry?_plainText_iff]
  · rw [standing_eq_expired_iff, expires_ofValue_iff]
    simp only [Value.ofExpiry?_plainText_iff]
  · rw [standing_eq_invalidDate_iff, expires_ofValue_iff]
    simp only [ne_eq, Value.plainText_eq_empty_iff, Option.eq_none_iff_forall_ne_some,
      Value.ofExpiry?_plainText_iff]
  · rw [Toml.readWord?_eq_date_iff] at hread
    subst hread
    refine ⟨?_, fun place => ?_⟩
    · rw [Date.ofExpiry?_eq_some_iff, String.toList_ofList]
      exact d.isExpiryText_chars
    · rw [expiryOf_date, expiryOf_string]

end ExpiryGate.Waiver
