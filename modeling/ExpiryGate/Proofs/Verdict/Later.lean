import ExpiryGate.Proofs.Verdict.Partition

namespace ExpiryGate

/-- A waiver that has failed is listed the same on every later day: its message repeats the expiry
    as it was written, and not how long ago it was. -/
theorem Entry.ofWaiver_later {w : Waiver} {earlier later : Date} (hle : earlier ≤ later)
    (hfails : (w.standing earlier).isFailure = true) :
    ofWaiver w later = ofWaiver w earlier := by
  rcases w.standing_later hle with hsame | ⟨date, hactive, _⟩
  · rw [ofWaiver, ofWaiver, hsame]
  · simp [hactive, Standing.isFailure] at hfails

/-- A waiver that still holds on the later day was listed the same before. -/
theorem Entry.ofWaiver_earlier {w : Waiver} {earlier later : Date} (hle : earlier ≤ later)
    (hholds : (w.standing later).isFailure = false) :
    ofWaiver w later = ofWaiver w earlier := by
  rcases w.standing_later hle with hsame | ⟨date, _, hexpired⟩
  · rw [ofWaiver, ofWaiver, hsame]
  · simp [hexpired, Standing.isFailure] at hholds

/-- A waiver that fails on a day fails on every later one. -/
theorem Waiver.isFailure_later {w : Waiver} {earlier later : Date} (hle : earlier ≤ later)
    (hfails : (w.standing earlier).isFailure = true) : (w.standing later).isFailure = true := by
  rcases w.standing_later hle with hsame | ⟨date, _, hexpired⟩
  · rw [hsame, hfails]
  · rw [hexpired]
    rfl

namespace Baseline

/-- Both lists at once, by induction on the waivers: each waiver stays in its list or changes from
    the active to the failing one, which keeps both sublists. -/
theorem sublist_later (b : Baseline) {earlier later : Date} (hle : earlier ≤ later) :
    (b.activeOn later).Sublist (b.activeOn earlier) ∧
      (b.failingOn earlier).Sublist (b.failingOn later) := by
  obtain ⟨ws⟩ := b
  induction ws with
  | nil => exact ⟨List.Sublist.refl _, List.Sublist.refl _⟩
  | cons w ws ih =>
    obtain ⟨hactive, hfailing⟩ := ih
    rw [activeOn_cons, activeOn_cons, failingOn_cons, failingOn_cons]
    cases hearlier : (w.standing earlier).isFailure with
    | true =>
      rw [Waiver.isFailure_later hle hearlier, Entry.ofWaiver_later hle hearlier]
      exact ⟨hactive, hfailing.cons_cons _⟩
    | false =>
      cases hlater : (w.standing later).isFailure with
      | true => exact ⟨hactive.cons _, hfailing.cons _⟩
      | false =>
        rw [Entry.ofWaiver_earlier hle hlater]
        exact ⟨hactive.cons_cons _, hfailing⟩

/-- From a day to a later one, the active list loses entries and the failing list gains some, each
    waiver keeps its standing or goes from active to expired, and a check does not come to pass
    again after it has failed. -/
theorem judge_later (b : Baseline) (path : String) {earlier later : Date}
    (hle : earlier ≤ later) :
    (b.judge later path).active.Sublist (b.judge earlier path).active ∧
      (b.judge earlier path).failing.Sublist (b.judge later path).failing ∧
      (∀ w ∈ b.waivers, w.standing later = w.standing earlier ∨
        ∃ date, w.standing earlier = .active date ∧ w.standing later = .expired date) ∧
      ((b.judge later path).exitCode = .success → (b.judge earlier path).exitCode = .success) ∧
      ((b.judge earlier path).exitCode = .policyViolation →
        (b.judge later path).exitCode = .policyViolation) := by
  obtain ⟨hactive, hfailing⟩ := b.sublist_later hle
  refine ⟨hactive, hfailing, fun w _ => w.standing_later hle, ?_, ?_⟩
  · rw [exitCode_judge_eq_success_iff, exitCode_judge_eq_success_iff]
    intro hpasses
    rw [hpasses] at hfailing
    exact List.sublist_nil.1 hfailing
  · rw [exitCode_judge_eq_policyViolation_iff, exitCode_judge_eq_policyViolation_iff]
    intro hfails hpasses
    rw [hpasses] at hfailing
    exact hfails (List.sublist_nil.1 hfailing)

/-- Over the last day of an expiry the entry of its waiver leaves the active list, and the check
    fails from then on. -/
theorem judge_later_example :
    let b : Baseline := ⟨[⟨"GHSA-1", some "2026-01-31", "vendor patch pending"⟩,
      ⟨"GHSA-2", some "2026-3-1", "waiting on upstream"⟩]⟩
    let earlier : Date := ⟨2026, 1, 31, by decide⟩
    let later : Date := ⟨2026, 2, 1, by decide⟩
    earlier ≤ later ∧
      (b.judge later "b.toml").active.Sublist (b.judge earlier "b.toml").active ∧
      (b.judge earlier "b.toml").failing.Sublist (b.judge later "b.toml").failing ∧
      (b.judge earlier "b.toml").exitCode = .success ∧
      (b.judge later "b.toml").exitCode = .policyViolation := by
  intro b earlier later
  have hle : earlier ≤ later := by decide
  obtain ⟨hactive, hfailing, _, _, _⟩ := judge_later b "b.toml" hle
  exact ⟨hle, hactive, hfailing, by decide, by decide⟩

end Baseline

end ExpiryGate
