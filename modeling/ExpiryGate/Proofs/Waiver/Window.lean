import ExpiryGate.Proofs.Calendar.Days
import ExpiryGate.Proofs.Calendar.Spellings
import ExpiryGate.Proofs.Waiver.Standing

namespace ExpiryGate.Waiver

variable {w : Waiver} {text : String} {d today : Date}

/-- A waiver with a date is active iff going on from today, day by day, leads to that date. -/
theorem active_iff_exists_later? (hexpires : w.expires = some text)
    (hread : Date.ofExpiry? text = some d) :
    w.standing today = .active d ↔ ∃ count, today.later? count = some d := by
  rw [standing_eq_active_iff, Date.le_iff_exists_later?]
  constructor
  · rintro ⟨hlater, _⟩
    exact hlater
  · intro hlater
    exact ⟨hlater, text, hexpires, hread⟩

/-- It is expired iff going on from that date leads to today, in one step at least. -/
theorem expired_iff_exists_later? (hexpires : w.expires = some text)
    (hread : Date.ofExpiry? text = some d) :
    w.standing today = .expired d ↔ ∃ count, 1 ≤ count ∧ d.later? count = some today := by
  rw [standing_eq_expired_iff, Date.lt_iff_exists_later?]
  constructor
  · rintro ⟨hlater, _⟩
    exact hlater
  · intro hlater
    exact ⟨hlater, text, hexpires, hread⟩

/-- The standing of a waiver agrees with counting calendar days. If its expiry is the standard text
    of a day that comes some days after today, or is today, it is active with this day; if that day
    lies at least one day back, it is expired with it. So a waiver with an expiry date, however that
    is written, is active on exactly the days from which one gets to it and expired on exactly those
    that follow. Days are counted by going from each to the next, over month ends and leap days; the
    day numbers give the same count. -/
theorem standing_counts_days (w : Waiver) :
    (∀ today d count, today.later? count = some d → 0 ≤ d.year ∧ d.year ≤ 9999 →
        w.expires = some d.text → w.standing today = .active d) ∧
      (∀ today d count, 1 ≤ count → d.later? count = some today → 0 ≤ d.year ∧ d.year ≤ 9999 →
        w.expires = some d.text → w.standing today = .expired d) ∧
      (∀ text d, w.expires = some text → Date.ofExpiry? text = some d → ∀ today,
        (w.standing today = .active d ↔ ∃ count, today.later? count = some d) ∧
        (w.standing today = .expired d ↔ ∃ count, 1 ≤ count ∧ d.later? count = some today) ∧
        (w.standing today = .active d ∨ w.standing today = .expired d)) ∧
      ∀ (a b : Date) count, a.later? count = some b ↔ b.dayNumber = a.dayNumber + count := by
  refine ⟨?_, ?_, ?_, fun a b count => Date.later?_eq_some_iff⟩
  · intro today d count hlater hyear hexpires
    exact (active_iff_exists_later? hexpires (Date.ofExpiry?_text hyear)).2 ⟨count, hlater⟩
  · intro today d count hcount hlater hyear hexpires
    exact (expired_iff_exists_later? hexpires (Date.ofExpiry?_text hyear)).2 ⟨count, hcount, hlater⟩
  · intro text d hexpires hread today
    refine ⟨active_iff_exists_later? hexpires hread, expired_iff_exists_later? hexpires hread, ?_⟩
    rw [standing_of_date today hexpires hread]
    by_cases hpast : d < today
    · exact .inr (if_pos hpast)
    · exact .inl (if_neg hpast)

/-- The leap day of a century year lies between, and a year without one follows. -/
theorem standing_counts_days_example :
    let w : Waiver := .ofFields (some "GHSA-1") (some "2000-03-01") none
    let before : Date := ⟨2000, 2, 28, by decide⟩
    let d : Date := ⟨2000, 3, 1, by decide⟩
    let behind : Date := ⟨2001, 3, 1, by decide⟩
    w.expires = some d.text ∧
      before.later? 2 = some d ∧ w.standing before = .active d ∧
      d.later? 365 = some behind ∧ w.standing behind = .expired d := by
  intro w before d behind
  obtain ⟨hactive, hexpired, _, hnumbers⟩ := w.standing_counts_days
  have hyear : 0 ≤ d.year ∧ d.year ≤ 9999 := by decide
  have htext : w.expires = some d.text := by decide
  have hbefore : before.later? 2 = some d := by decide
  have hbehind : d.later? 365 = some behind := (hnumbers d behind 365).2 (by decide)
  exact ⟨htext, hbefore, hactive before d 2 hbefore hyear htext, hbehind,
    hexpired behind d 365 (by decide) hbehind hyear htext⟩

end ExpiryGate.Waiver
