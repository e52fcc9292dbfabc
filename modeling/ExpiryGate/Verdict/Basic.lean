import ExpiryGate.Decimal.Digits
import ExpiryGate.ExitCode
import ExpiryGate.Waiver.Baseline
import ExpiryGate.Waiver.Entry

namespace ExpiryGate

/-- The outcome of a check. Both lists are in the order of the baseline. -/
structure Verdict where
  schemaVersion : String
  /-- The baseline by the path it was found or looked for at. -/
  baseline : String
  baselineFound : Bool
  today : Date
  passed : Bool
  summary : String
  total : Nat
  active : List Entry
  failing : List Entry
deriving DecidableEq

namespace Verdict

/-- The version of the JSON form of verdicts. -/
def currentSchema : String := "advisory-gate.v1"

/-- A check fails iff a waiver does. -/
def exitCode (v : Verdict) : ExitCode :=
  if v.passed then .success else .policyViolation

/-- The verdict on a day when there is no baseline at `path`. -/
def absent (path : String) (today : Date) : Verdict where
  schemaVersion := currentSchema
  baseline := path
  baselineFound := false
  today := today
  passed := true
  summary := "Baseline not found; no exceptions to enforce"
  total := 0
  active := []
  failing := []

end Verdict

namespace Baseline

/-- The entries of the waivers that hold on a day. -/
def activeOn (b : Baseline) (today : Date) : List Entry :=
  (b.waivers.filter fun w => !(w.standing today).isFailure).map fun w => .ofWaiver w today

/-- The entries of the waivers that do not hold on a day. -/
def failingOn (b : Baseline) (today : Date) : List Entry :=
  (b.waivers.filter fun w => (w.standing today).isFailure).map fun w => .ofWaiver w today

/-- Every waiver is in exactly one of the two lists. -/
theorem length_activeOn_add_length_failingOn (b : Baseline) (today : Date) :
    (b.activeOn today).length + (b.failingOn today).length = b.waivers.length := by
  simp only [activeOn, failingOn, List.length_map]
  induction b.waivers with
  | nil => rfl
  | cons w ws ih => cases h : (w.standing today).isFailure <;> simp [h] <;> omega

/-- One sentence on a baseline of `total` waivers, of which so many hold and fail. -/
def summaryOf (total active failing : Nat) : String :=
  if total = 0 then "No advisory exceptions; baseline is clean"
  else if failing = 0 then
    "All " ++ Decimal.text active ++ " advisory exceptions are within their expiry window"
  else
    Decimal.text failing ++ " of " ++ Decimal.text total ++
      " advisory exceptions must be resolved"

/-- The verdict on a baseline on a day, which sorts its waivers into those that hold on the day and
    those that do not. -/
def judge (b : Baseline) (today : Date) (path : String) : Verdict :=
  let active := b.activeOn today
  let failing := b.failingOn today
  { schemaVersion := Verdict.currentSchema
    baseline := path
    baselineFound := true
    today := today
    passed := failing = []
    summary := summaryOf b.waivers.length active.length failing.length
    total := b.waivers.length
    active := active
    failing := failing }

end Baseline

end ExpiryGate
