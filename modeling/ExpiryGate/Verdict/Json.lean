import ExpiryGate.Calendar.Text
import ExpiryGate.Json.Canonical
import ExpiryGate.Verdict.Basic

namespace ExpiryGate

/-- Dates are written in their standard form. -/
def Date.toJson (d : Date) : Json :=
  .string d.text

/-- A waiver as JSON, where a missing expiry is null. -/
def Waiver.toJson (w : Waiver) : Json :=
  .object [
    ("expires", Json.optional .string w.expires),
    ("id", .string w.id),
    ("reason", .string w.reason)]

/-- A baseline as JSON, with its waivers in their order. -/
def Baseline.toJson (b : Baseline) : Json :=
  .object [("exceptions", .array (b.waivers.map Waiver.toJson))]

/-- A status is written as its label. -/
def Status.toJson (s : Status) : Json :=
  .string s.label

/-- An entry as JSON; what the waiver lacks is null. -/
def Entry.toJson (e : Entry) : Json :=
  .object [
    ("expires", Json.optional .string e.expires),
    ("expires_date", Json.optional Date.toJson e.expiresDate),
    ("id", .string e.id),
    ("message", .string e.message),
    ("reason", .string e.reason),
    ("status", e.status.toJson)]

namespace Verdict

/-- The verdict as an object with a member per field. -/
def toJson (v : Verdict) : Json :=
  .object [
    ("active", .array (v.active.map Entry.toJson)),
    ("baseline", .string v.baseline),
    ("baseline_found", .boolean v.baselineFound),
    ("failing", .array (v.failing.map Entry.toJson)),
    ("passed", .boolean v.passed),
    ("schema_version", .string v.schemaVersion),
    ("summary", .string v.summary),
    ("today", v.today.toJson),
    ("total", .number (.integer v.total))]

/-- The JSON report: the canonical text of the verdict. -/
def jsonReport (v : Verdict) : String :=
  v.toJson.text

end Verdict

end ExpiryGate
