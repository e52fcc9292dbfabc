import ExpiryGate.Proofs.Verdict.Partition

namespace ExpiryGate

/-- The members of two lists make up a third one, where those of each list keep their order. -/
inductive Interleaves {α : Type} : List α → List α → List α → Prop
  | nil : Interleaves [] [] []
  | left {x : α} {xs ys zs : List α} (hrest : Interleaves xs ys zs) :
      Interleaves (x :: xs) ys (x :: zs)
  | right {y : α} {xs ys zs : List α} (hrest : Interleaves xs ys zs) :
      Interleaves xs (y :: ys) (y :: zs)

/-- The waivers are sorted into active and failing entries by their standings on a day. -/
inductive Sorts (today : Date) : List Waiver → List Entry → List Entry → Prop
  | nil : Sorts today [] [] []
  | active {w : Waiver} {date : Date} {ws : List Waiver} {active failing : List Entry}
      (hactive : w.standing today = .active date) (hrest : Sorts today ws active failing) :
      Sorts today (w :: ws) (.ofStanding w (.active date) :: active) failing
  | failing {w : Waiver} {ws : List Waiver} {active failing : List Entry}
      (hfailing : ∀ date, w.standing today ≠ .active date)
      (hrest : Sorts today ws active failing) :
      Sorts today (w :: ws) active (.ofStanding w (w.standing today) :: failing)

namespace Waiver

/-- An active standing has a date that is not past, an expired one has a past date, and the others
    have none. -/
theorem date?_standing (w : Waiver) (today : Date) :
    ((w.standing today).status = .active →
        ∃ date, (w.standing today).date? = some date ∧ today ≤ date) ∧
      ((w.standing today).status = .expired →
        ∃ date, (w.standing today).date? = some date ∧ date < today) ∧
      ((w.standing today).status = .missingExpiry ∨ (w.standing today).status = .invalidDate →
        (w.standing today).date? = none) := by
  rcases w.expiry_cases with ⟨text, date, hexpires, hread⟩ | hnone
  · rw [standing_of_date today hexpires hread]
    by_cases hpast : date < today
    · simp [hpast, Standing.status, Standing.date?]
    · simp [hpast, Standing.status, Standing.date?, Date.not_lt_iff.1 hpast]
  · obtain ⟨s, hfailure, hdate, hstanding⟩ := standing_of_no_date hnone
    rw [hstanding today]
    cases s <;> simp_all [Standing.status, Standing.isFailure, Standing.date?]

theorem isFailure_standing_of_active {w : Waiver} {today date : Date}
    (hactive : w.standing today = .active date) : (w.standing today).isFailure = false := by
  rw [hactive]
  rfl

theorem isFailure_standing_of_failing {w : Waiver} {today : Date}
    (hfailing : ∀ date, w.standing today ≠ .active date) :
    (w.standing today).isFailure = true := by
  cases hstanding : w.standing today with
  | active date => exact absurd hstanding (hfailing date)
  | missingExpiry => rfl
  | invalidDate => rfl
  | expired date => rfl

end Waiver

namespace Sorts

variable {today : Date} {ws : List Waiver} {active failing : List Entry}

/-- The baseline is an interleaving of the waivers in the two lists: none is lost, none is added,
    and the order within each list is kept. -/
theorem interleaves (h : Sorts today ws active failing) :
    Interleaves (active.map Entry.waiver) (failing.map Entry.waiver) ws := by
  induction h with
  | nil => exact .nil
  | active _ _ ih => exact .left ih
  | failing _ _ ih => exact .right ih

/-- The lists of a verdict are the only ones into which its waivers are sorted. -/
theorem lists_eq (h : Sorts today ws active failing) :
    active = (⟨ws⟩ : Baseline).activeOn today ∧ failing = (⟨ws⟩ : Baseline).failingOn today := by
  induction h with
  | nil => exact ⟨rfl, rfl⟩
  | @active w date ws active failing hactive _ ih =>
    rw [Baseline.activeOn_cons, Baseline.failingOn_cons,
      Waiver.isFailure_standing_of_active hactive, ih.1, ih.2, Entry.ofWaiver, hactive]
    exact ⟨rfl, rfl⟩
  | @failing w ws active failing hfailing _ ih =>
    rw [Baseline.activeOn_cons, Baseline.failingOn_cons,
      Waiver.isFailure_standing_of_failing hfailing, ih.1, ih.2]
    exact ⟨rfl, rfl⟩

end Sorts

namespace Baseline

/-- The two lists of a verdict sort the waivers of the baseline, by induction on these. -/
theorem sorts_lists (ws : List Waiver) (today : Date) :
    Sorts today ws ((⟨ws⟩ : Baseline).activeOn today) ((⟨ws⟩ : Baseline).failingOn today) := by
  induction ws with
  | nil => exact .nil
  | cons w ws ih =>
    rw [activeOn_cons, failingOn_cons]
    by_cases hactive : ∃ date, w.standing today = .active date
    · obtain ⟨date, hdate⟩ := hactive
      rw [Waiver.isFailure_standing_of_active hdate, Entry.ofWaiver, hdate]
      exact .active hdate ih
    · have hfailing : ∀ date, w.standing today ≠ .active date := not_exists.1 hactive
      rw [Waiver.isFailure_standing_of_failing hfailing]
      exact .failing hfailing ih

/-- No other pair of lists sorts the waivers. -/
theorem sorts_iff {b : Baseline} {today : Date} {active failing : List Entry} :
    Sorts today b.waivers active failing ↔
      active = b.activeOn today ∧ failing = b.failingOn today := by
  constructor
  · exact Sorts.lists_eq
  · rintro ⟨rfl, rfl⟩
    exact sorts_lists b.waivers today

/-- What an active entry says of its date. -/
theorem date_of_mem_activeOn {b : Baseline} {today : Date} {e : Entry}
    (he : e ∈ b.activeOn today) :
    e.status = .active ∧ ∃ date, e.expiresDate = some date ∧ today ≤ date := by
  obtain ⟨w, _, hholds, rfl⟩ := mem_activeOn_iff.1 he
  have hstatus : (w.standing today).status = .active := by
    rw [← Standing.isFailure_eq_false_iff, Waiver.isFailure_standing_eq_false_iff]
    exact hholds
  exact ⟨hstatus, (w.date?_standing today).1 hstatus⟩

/-- What a failing entry says of its date. -/
theorem date_of_mem_failingOn {b : Baseline} {today : Date} {e : Entry}
    (he : e ∈ b.failingOn today) :
    e.status ≠ .active ∧
      (e.status = .expired → ∃ date, e.expiresDate = some date ∧ date < today) ∧
      (e.status = .missingExpiry ∨ e.status = .invalidDate → e.expiresDate = none) := by
  obtain ⟨w, _, hfails, rfl⟩ := mem_failingOn_iff.1 he
  have hstatus : (w.standing today).status ≠ .active := by
    rw [Ne, ← Standing.isFailure_eq_false_iff, Waiver.isFailure_standing_iff.2 hfails]
    decide
  obtain ⟨_, hexpired, hnone⟩ := w.date?_standing today
  exact ⟨hstatus, hexpired, hnone⟩

/-- The summary tells three cases apart and counts what the lists hold. -/
theorem summary_judge (b : Baseline) (today : Date) (path : String) :
    (b.judge today path).summary =
      if b.waivers = [] then "No advisory exceptions; baseline is clean"
      else if b.failingOn today = [] then
        "All " ++ Decimal.text (b.activeOn today).length ++
          " advisory exceptions are within their expiry window"
      else
        Decimal.text (b.failingOn today).length ++ " of " ++ Decimal.text b.waivers.length ++
          " advisory exceptions must be resolved" := by
  simp only [judge, summaryOf, List.length_eq_zero_iff]

/-- A verdict sorts the waivers of its baseline in their order, and nothing in it goes beyond the
    two lists: it has the only lists into which the waivers can be sorted, and these make up the
    baseline again. The total counts the waivers, the check passes iff no entry fails, the entries
    have the dates that go with their status, and the summary counts the lists. -/
theorem judge_sorts (b : Baseline) (today : Date) (path : String) :
    let v := b.judge today path
    (∀ active failing, Sorts today b.waivers active failing ↔
        active = v.active ∧ failing = v.failing) ∧
      Interleaves (v.active.map Entry.waiver) (v.failing.map Entry.waiver) b.waivers ∧
      (v.total = b.waivers.length ∧ v.total = v.active.length + v.failing.length) ∧
      ((v.passed = true ↔ v.failing = []) ∧ (v.exitCode = .success ↔ v.failing = [])) ∧
      (∀ e ∈ v.active, e.status = .active ∧ ∃ date, e.expiresDate = some date ∧ today ≤ date) ∧
      (∀ e ∈ v.failing, e.status ≠ .active ∧
        (e.status = .expired → ∃ date, e.expiresDate = some date ∧ date < today) ∧
        (e.status = .missingExpiry ∨ e.status = .invalidDate → e.expiresDate = none)) ∧
      v.summary =
        if b.waivers = [] then "No advisory exceptions; baseline is clean"
        else if v.failing = [] then
          "All " ++ Decimal.text v.active.length ++
            " advisory exceptions are within their expiry window"
        else
          Decimal.text v.failing.length ++ " of " ++ Decimal.text v.total ++
            " advisory exceptions must be resolved" := by
  intro v
  have hpassed : v.passed = true ↔ v.failing = [] := decide_eq_true_iff
  refine ⟨fun active failing => sorts_iff, (sorts_lists b.waivers today).interleaves, ⟨rfl, ?_⟩,
    ⟨hpassed, exitCode_judge_eq_success_iff⟩, fun e => date_of_mem_activeOn,
    fun e => date_of_mem_failingOn, b.summary_judge today path⟩
  exact (b.length_activeOn_add_length_failingOn today).symm

end Baseline

end ExpiryGate
