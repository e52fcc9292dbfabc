import ExpiryGate.Proofs.Waiver.Standing
import ExpiryGate.Verdict.Basic

namespace ExpiryGate.Baseline

/-- A waiver that holds joins the active entries in front of those behind it; one that fails leaves
    them as they are. -/
theorem activeOn_cons (w : Waiver) (ws : List Waiver) (today : Date) :
    (⟨w :: ws⟩ : Baseline).activeOn today =
      if (w.standing today).isFailure then (⟨ws⟩ : Baseline).activeOn today
      else .ofWaiver w today :: (⟨ws⟩ : Baseline).activeOn today := by
  cases hfailure : (w.standing today).isFailure <;> simp [activeOn, hfailure]

/-- A waiver that fails joins the failing entries in front of those behind it; one that holds leaves
    them as they are. -/
theorem failingOn_cons (w : Waiver) (ws : List Waiver) (today : Date) :
    (⟨w :: ws⟩ : Baseline).failingOn today =
      if (w.standing today).isFailure then
        .ofWaiver w today :: (⟨ws⟩ : Baseline).failingOn today
      else (⟨ws⟩ : Baseline).failingOn today := by
  cases hfailure : (w.standing today).isFailure <;> simp [failingOn, hfailure]

/-- The active entries are those of the waivers that hold on the day. -/
theorem mem_activeOn_iff {b : Baseline} {today : Date} {e : Entry} :
    e ∈ b.activeOn today ↔ ∃ w ∈ b.waivers, w.HoldsOn today ∧ .ofWaiver w today = e := by
  simp only [activeOn, List.mem_map, List.mem_filter, and_assoc, Bool.not_eq_true',
    Waiver.isFailure_standing_eq_false_iff]

/-- The failing entries are those of the waivers that fail on the day. -/
theorem mem_failingOn_iff {b : Baseline} {today : Date} {e : Entry} :
    e ∈ b.failingOn today ↔ ∃ w ∈ b.waivers, w.Fails today ∧ .ofWaiver w today = e := by
  simp only [failingOn, List.mem_map, List.mem_filter, and_assoc, Waiver.isFailure_standing_iff]

/-- Nothing fails iff every waiver holds on the day. -/
theorem failingOn_eq_nil_iff {b : Baseline} {today : Date} :
    b.failingOn today = [] ↔ ∀ w ∈ b.waivers, w.HoldsOn today := by
  simp only [failingOn, List.map_eq_nil_iff, List.filter_eq_nil_iff, Bool.not_eq_true,
    Waiver.isFailure_standing_eq_false_iff]

/-- The exit code of a verdict depends only on whether something fails. -/
theorem exitCode_judge (b : Baseline) (today : Date) (path : String) :
    (b.judge today path).exitCode =
      if b.failingOn today = [] then .success else .policyViolation := by
  simp [Verdict.exitCode, judge]

/-- A check succeeds iff nothing fails, so that a single waiver is enough to break it. -/
theorem exitCode_judge_eq_success_iff {b : Baseline} {today : Date} {path : String} :
    (b.judge today path).exitCode = .success ↔ b.failingOn today = [] := by
  rw [exitCode_judge]
  split <;> simp_all [ExitCode.success, ExitCode.policyViolation]

/-- A check reports a violation iff something fails. There is no third outcome for a baseline that
    was judged. -/
theorem exitCode_judge_eq_policyViolation_iff {b : Baseline} {today : Date} {path : String} :
    (b.judge today path).exitCode = .policyViolation ↔ b.failingOn today ≠ [] := by
  rw [exitCode_judge]
  split <;> simp_all [ExitCode.success, ExitCode.policyViolation]

end ExpiryGate.Baseline
