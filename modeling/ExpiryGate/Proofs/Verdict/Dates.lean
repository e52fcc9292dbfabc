import ExpiryGate.Proofs.Calendar.Spellings
import ExpiryGate.Proofs.Verdict.Stored
import ExpiryGate.Settings

namespace ExpiryGate

/-- The day that a report names can be given for another run, if its year has four digits. With a
    sign in front of the year it is refused. -/
theorem Settings.todayOf_text (options : Options) (clock d : Date) :
    todayOf { options with today := some d.text } clock =
      if 0 ≤ d.year ∧ d.year ≤ 9999 then .ok d else .error (.invalidValue "today" d.text) := by
  unfold todayOf
  by_cases hyear : 0 ≤ d.year ∧ d.year ≤ 9999
  · rw [if_pos hyear]
    simp only [Date.ofExpiry?_text hyear]
  · rw [if_neg hyear]
    simp only [Date.ofExpiry?_text_eq_none hyear]

/-- The standard text of a date is the normal form of the texts that are read as this date. It is
    what a report gives as its day and as the date of an entry. It is read as the date if the year
    has four digits, and as no date otherwise, be it as an expiry or as the day for another run.
    Every text that is read as the date becomes the standard text, which has ten characters, by
    filling up month and day with leading zeros. So the texts of a date are its standard text and
    those without one or both of these zeros, two for each part below ten, and no other date shares
    one of them. -/
theorem Date.text_is_normal_form (d : Date) :
    (∀ v : Verdict, v.today = d → v.toJson.get? "today" = some (.string d.text)) ∧
      (∀ e : Entry, e.expiresDate = some d →
        e.toJson.get? "expires_date" = some (.string d.text)) ∧
      (ofExpiry? d.text = if 0 ≤ d.year ∧ d.year ≤ 9999 then some d else none) ∧
      (∀ (options : Options) (clock : Date),
        Settings.todayOf { options with today := some d.text } clock =
          if 0 ≤ d.year ∧ d.year ≤ 9999 then .ok d else .error (.invalidValue "today" d.text)) ∧
      (∀ text, ofExpiry? text = some d →
        d.text.length = 10 ∧ ofExpiry? d.text = some d ∧
          ∃ year month day, IsDashed text.toList year month day ∧ d.text.toList =
            year ++ '-' :: (List.leftpad 2 '0' month ++ '-' :: List.leftpad 2 '0' day)) ∧
      (∀ text, ofExpiry? text = some d ↔ text ∈ d.expiryTexts) ∧
      (∀ other, other ≠ d → ∀ text ∈ other.expiryTexts, text ∉ d.expiryTexts) ∧
      d.expiryTexts.Nodup ∧
      d.expiryTexts.length =
        if 0 ≤ d.year ∧ d.year ≤ 9999 then
          (if d.month < 10 then 2 else 1) * (if d.day < 10 then 2 else 1)
        else 0 := by
  refine ⟨?_, fun e => e.isShownAs_toJson.date_present d, ?_, ?_, ?_, ?_, ?_,
    d.nodup_expiryTexts, d.length_expiryTexts⟩
  · rintro v rfl
    rfl
  · by_cases hyear : 0 ≤ d.year ∧ d.year ≤ 9999
    · rw [if_pos hyear, ofExpiry?_text hyear]
    · rw [if_neg hyear, ofExpiry?_text_eq_none hyear]
  · exact fun options clock => Settings.todayOf_text options clock d
  · intro text hread
    rw [ofExpiry?_eq_some_iff] at hread
    have hyear := (isExpiryText_iff.1 hread).1
    rw [Date.text, String.length_ofList, String.toList_ofList]
    exact ⟨length_chars hyear, ofExpiry?_text hyear, exists_isDashed_leftpad hread⟩
  · exact fun text => mem_expiryTexts_iff.symm
  · intro other hother text hmem hshared
    rw [mem_expiryTexts_iff] at hmem hshared
    rw [hmem] at hshared
    exact hother (Option.some.inj hshared)

/-- A year with a leading zero, and a month and a day that can do without one. -/
theorem Date.text_is_normal_form_example :
    let d : Date := ⟨999, 6, 7, by decide⟩
    ofExpiry? "0999-6-7" = some d ∧ d.text = "0999-06-07" ∧ ofExpiry? "0999-06-07" = some d ∧
      d.expiryTexts.length = 4 := by
  intro d
  obtain ⟨_, _, _, _, hfilled, hiff, _, _, hlength⟩ := Date.text_is_normal_form d
  have hread : ofExpiry? "0999-6-7" = some d := (hiff "0999-6-7").2 (by decide)
  have htext : d.text = "0999-06-07" := by decide
  obtain ⟨_, hreadText, _⟩ := hfilled "0999-6-7" hread
  rw [htext] at hreadText
  exact ⟨hread, htext, hreadText, hlength.trans (by decide)⟩

end ExpiryGate
