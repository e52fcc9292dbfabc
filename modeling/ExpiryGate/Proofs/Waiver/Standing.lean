import ExpiryGate.Waiver.Standing

namespace ExpiryGate

theorem Date.ofExpiry?_empty : Date.ofExpiry? "" = none := by
  decide

namespace Waiver

/-- The expiry of the waiver is a date on or after `today`. -/
def HoldsOn (w : Waiver) (today : Date) : Prop :=
  ∃ text date, w.expires = some text ∧ Date.ofExpiry? text = some date ∧ today ≤ date

/-- The expiry of the waiver is missing, empty, no date, or a date before `today`. -/
inductive Fails (w : Waiver) (today : Date) : Prop
  | missing (hexpires : w.expires = none)
  | empty (hexpires : w.expires = some "")
  | unreadable (text : String) (hexpires : w.expires = some text)
      (hread : Date.ofExpiry? text = none)
  | past (text : String) (date : Date) (hexpires : w.expires = some text)
      (hread : Date.ofExpiry? text = some date) (hpast : date < today)

/-- A waiver has a date as its expiry, or its expiry, if there is one, is no date. -/
theorem expiry_cases (w : Waiver) :
    (∃ text date, w.expires = some text ∧ Date.ofExpiry? text = some date) ∨
      ∀ text, w.expires = some text → Date.ofExpiry? text = none := by
  cases hexpires : w.expires with
  | none => right; intro text htext; cases htext
  | some text =>
    cases hread : Date.ofExpiry? text with
    | none =>
      right
      intro other hother
      cases hother
      exact hread
    | some date => exact .inl ⟨text, date, rfl, hread⟩

/-- A waiver with an expiry date holds up to that date and on it. -/
theorem holdsOn_iff_le {w : Waiver} {text : String} {date today : Date}
    (hexpires : w.expires = some text) (hread : Date.ofExpiry? text = some date) :
    w.HoldsOn today ↔ today ≤ date := by
  constructor
  · rintro ⟨other, later, hother, hlater, hle⟩
    rw [hexpires] at hother
    cases hother
    rw [hread] at hlater
    cases hlater
    exact hle
  · intro hle
    exact ⟨text, date, hexpires, hread, hle⟩

theorem not_holdsOn_of_no_date {w : Waiver} {today : Date}
    (hnone : ∀ text, w.expires = some text → Date.ofExpiry? text = none) :
    ¬ w.HoldsOn today := by
  rintro ⟨text, date, hexpires, hread, _⟩
  simp [hnone text hexpires] at hread

/-- On each day a waiver either holds or fails. -/
theorem fails_iff_not_holdsOn {w : Waiver} {today : Date} : w.Fails today ↔ ¬ w.HoldsOn today := by
  constructor
  · intro hfails
    cases hfails with
    | missing hexpires => exact not_holdsOn_of_no_date (by simp [hexpires])
    | empty hexpires => exact not_holdsOn_of_no_date (by simp [hexpires, Date.ofExpiry?_empty])
    | unreadable text hexpires hread => exact not_holdsOn_of_no_date (by simp [hexpires, hread])
    | past text date hexpires hread hpast =>
      rw [holdsOn_iff_le hexpires hread]
      exact fun hle => hle hpast
  · intro hnot
    rcases w.expiry_cases with ⟨text, date, hexpires, hread⟩ | hnone
    · rw [holdsOn_iff_le hexpires hread] at hnot
      by_cases hpast : date < today
      · exact .past text date hexpires hread hpast
      · exact absurd hpast hnot
    · cases hexpires : w.expires with
      | none => exact .missing hexpires
      | some text => exact .unreadable text hexpires (hnone text hexpires)

/-- A readable expiry decides the standing by its order to the day. -/
theorem standing_of_date {w : Waiver} {text : String} {date : Date} (today : Date)
    (hexpires : w.expires = some text) (hread : Date.ofExpiry? text = some date) :
    w.standing today = if date < today then .expired date else .active date := by
  -- The empty text is treated apart, but it is no date anyway.
  have htext : text ≠ "" := by
    rintro rfl
    simp [Date.ofExpiry?_empty] at hread
  simp [standing, standingOf, hexpires, hread, htext]

theorem standing_of_holdsOn {w : Waiver} {today : Date} (hholds : w.HoldsOn today) :
    ∃ date, w.standing today = .active date := by
  obtain ⟨text, date, hexpires, hread, hle⟩ := hholds
  rw [standing_of_date today hexpires hread, if_neg hle]
  exact ⟨date, rfl⟩

/-- Without a readable expiry the standing is a failure that has nothing to do with the day. -/
theorem standing_of_no_date {w : Waiver}
    (hnone : ∀ text, w.expires = some text → Date.ofExpiry? text = none) :
    ∃ s : Standing, s.isFailure = true ∧ s.date? = none ∧ ∀ today, w.standing today = s := by
  cases hexpires : w.expires with
  | none => exact ⟨.missingExpiry, rfl, rfl, fun _ => by simp [standing, standingOf, hexpires]⟩
  | some text =>
    have hread := hnone text hexpires
    by_cases htext : text = ""
    · exact ⟨.missingExpiry, rfl, rfl, fun _ => by simp [standing, standingOf, hexpires, htext]⟩
    · exact ⟨.invalidDate, rfl, rfl,
        fun _ => by simp [standing, standingOf, hexpires, hread, htext]⟩

/-- The standing of a waiver by its expiry text, with the texts that lead to it. -/
theorem standing_cases (w : Waiver) (today : Date) :
    (w.expires = none ∨ w.expires = some "") ∧ w.standing today = .missingExpiry ∨
      (∃ text, w.expires = some text ∧ text ≠ "" ∧ Date.ofExpiry? text = none ∧
        w.standing today = .invalidDate) ∨
      ∃ text date, w.expires = some text ∧ text ≠ "" ∧ Date.ofExpiry? text = some date ∧
        w.standing today = if date < today then .expired date else .active date := by
  cases hexpires : w.expires with
  | none => exact .inl ⟨.inl rfl, by simp [standing, standingOf, hexpires]⟩
  | some text =>
    by_cases htext : text = ""
    · exact .inl ⟨.inr (congrArg some htext), by simp [standing, standingOf, hexpires, htext]⟩
    · right
      cases hread : Date.ofExpiry? text with
      | none => exact .inl ⟨text, rfl, htext, hread, by
          simp [standing, standingOf, hexpires, htext, hread]⟩
      | some date => exact .inr ⟨text, date, rfl, htext, hread, standing_of_date today hexpires hread⟩

/-- An expiry is missing if there is none and also if it is the empty text. -/
theorem standing_eq_missingExpiry_iff {w : Waiver} {today : Date} :
    w.standing today = .missingExpiry ↔ w.expires = none ∨ w.expires = some "" := by
  rcases w.standing_cases today with ⟨hexpires, hstanding⟩ | ⟨text, hexpires, htext, _, hstanding⟩ |
    ⟨text, date, hexpires, htext, _, hstanding⟩
  · simp [hexpires, hstanding]
  · simp [hexpires, htext, hstanding]
  · by_cases hpast : date < today <;> simp [hexpires, htext, hstanding, hpast]

/-- An expiry is invalid iff it is a text that is not empty and no date. -/
theorem standing_eq_invalidDate_iff {w : Waiver} {today : Date} :
    w.standing today = .invalidDate ↔
      ∃ text, w.expires = some text ∧ text ≠ "" ∧ Date.ofExpiry? text = none := by
  rcases w.standing_cases today with ⟨hexpires | hexpires, hstanding⟩ |
    ⟨text, hexpires, htext, hread, hstanding⟩ | ⟨text, date, hexpires, htext, hread, hstanding⟩
  · simp [hexpires, hstanding]
  · simp [hexpires, hstanding]
  · simp [hexpires, htext, hread, hstanding]
  · by_cases hpast : date < today <;> simp [hexpires, htext, hread, hstanding, hpast]

/-- A waiver is active until a date iff that is its expiry date and the day is not behind it. -/
theorem standing_eq_active_iff {w : Waiver} {today date : Date} :
    w.standing today = .active date ↔
      today ≤ date ∧ ∃ text, w.expires = some text ∧ Date.ofExpiry? text = some date := by
  constructor
  · intro hactive
    rcases w.standing_cases today with ⟨_, hstanding⟩ | ⟨_, _, _, _, hstanding⟩ |
      ⟨text, found, hexpires, _, hread, hstanding⟩ <;> rw [hstanding] at hactive
    · cases hactive
    · cases hactive
    · split at hactive <;> cases hactive
      rename_i hnot
      exact ⟨hnot, text, hexpires, hread⟩
  · rintro ⟨hle, text, hexpires, hread⟩
    rw [standing_of_date today hexpires hread, if_neg hle]

/-- A waiver is expired since a date iff that is its expiry date and the day is behind it. -/
theorem standing_eq_expired_iff {w : Waiver} {today date : Date} :
    w.standing today = .expired date ↔
      date < today ∧ ∃ text, w.expires = some text ∧ Date.ofExpiry? text = some date := by
  constructor
  · intro hexpired
    rcases w.standing_cases today with ⟨_, hstanding⟩ | ⟨_, _, _, _, hstanding⟩ |
      ⟨text, found, hexpires, _, hread, hstanding⟩ <;> rw [hstanding] at hexpired
    · cases hexpired
    · cases hexpired
    · split at hexpired <;> cases hexpired
      rename_i hpast
      exact ⟨hpast, text, hexpires, hread⟩
  · rintro ⟨hpast, text, hexpires, hread⟩
    rw [standing_of_date today hexpires hread, if_pos hpast]

/-- A standing is a failure iff the waiver fails, said by its expiry and the calendar alone. -/
theorem isFailure_standing_iff {w : Waiver} {today : Date} :
    (w.standing today).isFailure = true ↔ w.Fails today := by
  rw [fails_iff_not_holdsOn]
  rcases w.expiry_cases with ⟨text, date, hexpires, hread⟩ | hnone
  · rw [standing_of_date today hexpires hread, holdsOn_iff_le hexpires hread, ← Date.not_lt_iff]
    by_cases hpast : date < today <;> simp [hpast, Standing.isFailure]
  · obtain ⟨s, hfailure, _, hstanding⟩ := standing_of_no_date hnone
    simp [hstanding today, hfailure, not_holdsOn_of_no_date hnone]

theorem isFailure_standing_eq_false_iff {w : Waiver} {today : Date} :
    (w.standing today).isFailure = false ↔ w.HoldsOn today := by
  rw [← Bool.not_eq_true, isFailure_standing_iff, fails_iff_not_holdsOn, Classical.not_not]

/-- As days pass, the standing of a waiver stays as it is or goes from active to expired. -/
theorem standing_later (w : Waiver) {earlier later : Date} (hle : earlier ≤ later) :
    w.standing later = w.standing earlier ∨
      ∃ date, w.standing earlier = .active date ∧ w.standing later = .expired date := by
  rcases w.expiry_cases with ⟨text, date, hexpires, hread⟩ | hnone
  · rw [standing_of_date earlier hexpires hread, standing_of_date later hexpires hread]
    by_cases hpast : date < earlier
    · left
      rw [if_pos hpast, if_pos (Date.lt_of_lt_of_le hpast hle)]
    · by_cases hlater : date < later
      · exact .inr ⟨date, if_neg hpast, if_pos hlater⟩
      · left
        rw [if_neg hpast, if_neg hlater]
  · obtain ⟨s, _, _, hstanding⟩ := standing_of_no_date hnone
    exact .inl ((hstanding later).trans (hstanding earlier).symm)

end Waiver

end ExpiryGate
