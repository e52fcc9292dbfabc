import ExpiryGate.Files.Path
import ExpiryGate.Text.Lines
import ExpiryGate.Verdict.Basic

namespace ExpiryGate.Verdict

/-- The name under which a missing baseline is reported. -/
def missingName (path : String) : String :=
  (Path.fileName? path).getD path

/-- The line above the waivers that hold. -/
def activeHeader (count : Nat) : String :=
  "Active exceptions (" ++ Decimal.text count ++ "):"

/-- The line above the waivers that fail. -/
def failingHeader (count : Nat) : String :=
  "EXPIRED exceptions (" ++ Decimal.text count ++ ") — these MUST be resolved:"

/-- The closing line of a report without failing waivers. -/
def closingLine : String := "All advisory exceptions are within their expiry window"

/-- The only line of a report on an empty baseline. -/
def cleanLine : String := "No advisory exceptions — baseline is clean"

/-- The lines on the waivers that hold. -/
def activeLines (v : Verdict) : List String :=
  if v.active = [] then [] else activeHeader v.active.length :: v.active.map Entry.line

/-- The lines on the waivers that fail, or the closing line if there are none. -/
def closingLines (v : Verdict) : List String :=
  if v.failing = [] then [closingLine]
  else "" :: failingHeader v.failing.length :: v.failing.map Entry.line

/-- The lines of a report. -/
def reportLines (v : Verdict) : List String :=
  if !v.baselineFound then [missingName v.baseline ++ " not found — no exceptions to enforce"]
  else if v.total = 0 then [cleanLine]
  else v.activeLines ++ v.closingLines

/-- The text report, in which every line ends with a line feed. -/
def report (v : Verdict) : String :=
  Text.unlines v.reportLines

end ExpiryGate.Verdict
