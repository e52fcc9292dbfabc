import ExpiryGate.Proofs.Verdict.Partition
import ExpiryGate.Proofs.Verdict.Stored

namespace ExpiryGate

namespace Verdict

/-- The waivers that a verdict lists, the active ones in front of the failing ones. -/
def listed (v : Verdict) : Baseline :=
  ⟨(v.active ++ v.failing).map Entry.waiver⟩

/-- The verdict on the listed waivers, on the same day and for the same path. -/
def recheck (v : Verdict) : Verdict :=
  v.listed.judge v.today v.baseline

end Verdict

namespace Baseline

variable (b : Baseline) (today : Date)

/-- The waivers of a baseline that hold on a day. -/
def holdingOn : Baseline :=
  ⟨b.waivers.filter fun w => !(w.standing today).isFailure⟩

/-- The waivers of a baseline that do not hold on a day. -/
def lapsedOn : Baseline :=
  ⟨b.waivers.filter fun w => (w.standing today).isFailure⟩

/-- The waivers in the entries of a verdict are those of the baseline, with the ones that hold in
    front. -/
theorem listed_judge (path : String) :
    (b.judge today path).listed = ⟨(b.holdingOn today).waivers ++ (b.lapsedOn today).waivers⟩ := by
  simp only [Verdict.listed, judge, activeOn, failingOn, holdingOn, lapsedOn, List.map_append,
    List.map_map, Function.comp_def, Entry.waiver_ofWaiver, List.map_id']

theorem activeOn_append (xs ys : List Waiver) :
    (⟨xs ++ ys⟩ : Baseline).activeOn today =
      (⟨xs⟩ : Baseline).activeOn today ++ (⟨ys⟩ : Baseline).activeOn today := by
  simp only [activeOn, List.filter_append, List.map_append]

theorem failingOn_append (xs ys : List Waiver) :
    (⟨xs ++ ys⟩ : Baseline).failingOn today =
      (⟨xs⟩ : Baseline).failingOn today ++ (⟨ys⟩ : Baseline).failingOn today := by
  simp only [failingOn, List.filter_append, List.map_append]

/-- Judged again, the waivers that hold are active in the same order. -/
theorem activeOn_holdingOn : (b.holdingOn today).activeOn today = b.activeOn today := by
  simp [activeOn, holdingOn, List.filter_filter]

theorem failingOn_lapsedOn : (b.lapsedOn today).failingOn today = b.failingOn today := by
  simp [failingOn, lapsedOn, List.filter_filter]

/-- None of the waivers that fail becomes active. -/
theorem activeOn_lapsedOn : (b.lapsedOn today).activeOn today = [] := by
  simp [activeOn, lapsedOn, List.filter_filter]

/-- None of the waivers that hold becomes failing. -/
theorem failingOn_holdingOn : (b.holdingOn today).failingOn today = [] := by
  simp [failingOn, holdingOn, List.filter_filter]

/-- A verdict depends on its two lists only: the total is the number of their entries. -/
theorem judge_eq_of_lists {b c : Baseline} {today : Date} (path : String)
    (hactive : b.activeOn today = c.activeOn today)
    (hfailing : b.failingOn today = c.failingOn today) :
    b.judge today path = c.judge today path := by
  have htotal : b.waivers.length = c.waivers.length := by
    rw [← b.length_activeOn_add_length_failingOn today, hactive, hfailing,
      c.length_activeOn_add_length_failingOn]
  simp only [judge, hactive, hfailing, htotal]

/-- A second check of the waivers in a verdict gives the verdict again, although they come in
    another order than in the baseline. -/
theorem recheck_judge (path : String) :
    (b.judge today path).recheck = b.judge today path := by
  have hactive : (b.judge today path).listed.activeOn today = b.activeOn today := by
    rw [listed_judge, activeOn_append]
    change (b.holdingOn today).activeOn today ++ (b.lapsedOn today).activeOn today = _
    rw [activeOn_holdingOn, activeOn_lapsedOn, List.append_nil]
  have hfailing : (b.judge today path).listed.failingOn today = b.failingOn today := by
    rw [listed_judge, failingOn_append]
    change (b.holdingOn today).failingOn today ++ (b.lapsedOn today).failingOn today = _
    rw [failingOn_holdingOn, failingOn_lapsedOn, List.nil_append]
  exact judge_eq_of_lists path hactive hfailing

/-- A verdict that was stored as a JSON report can be checked again: the waivers that the report
    lists, judged on its day and for its path, give the verdict and the report that was stored. -/
theorem recheck_jsonReport (path : String) (htotal : b.waivers.length ≤ twoPow 53) :
    ∃ stored, Verdict.ofJsonReport? (b.judge today path).jsonReport = some stored ∧
      stored.recheck = b.judge today path ∧
      stored.recheck.jsonReport = (b.judge today path).jsonReport := by
  refine ⟨b.judge today path, Verdict.ofJsonReport?_jsonReport htotal, b.recheck_judge today path,
    ?_⟩
  rw [recheck_judge]

/-- The waivers of this baseline change places when they are listed, since the first one fails. -/
theorem recheck_jsonReport_example :
    let b : Baseline := ⟨[⟨"GHSA-1", some "2025-12-31", "waiting"⟩, ⟨"GHSA-2", none, ""⟩,
      ⟨"GHSA-3", some "2026-3-1", "a \"quoted\"\nreason"⟩, ⟨"GHSA-1", some "soon", "waiting"⟩]⟩
    let today : Date := ⟨2026, 1, 31, by decide⟩
    b.waivers.length ≤ twoPow 53 ∧ (b.judge today "b.toml").listed ≠ b ∧
      ∃ stored, Verdict.ofJsonReport? (b.judge today "b.toml").jsonReport = some stored ∧
        stored.recheck = b.judge today "b.toml" := by
  intro b today
  have htotal : b.waivers.length ≤ twoPow 53 := by decide
  obtain ⟨stored, hread, hrecheck, _⟩ := recheck_jsonReport b today "b.toml" htotal
  exact ⟨htotal, by decide, stored, hread, hrecheck⟩

end Baseline

end ExpiryGate
