import ExpiryGate.Calendar.Text
import ExpiryGate.Gate
import ExpiryGate.Log.Basic

namespace ExpiryGate

/-- The target of the events on checking. -/
def Gate.checkTarget : String := "advisory_gate::command"

/-- The target of the events on loading. -/
def Gate.loadTarget : String := "advisory_gate::baseline"

/-- An identifier that comes again. -/
def Baseline.repeatEvent (id : String) : Log.Event where
  level := .debug
  target := Gate.checkTarget
  message := "Advisory listed more than once; each entry is checked independently"
  fields := [("id", id)]

/-- An entry that fails. -/
def Entry.event (e : Entry) : Log.Event where
  level := .debug
  target := Gate.checkTarget
  message := e.message
  fields := [("id", e.id), ("status", e.status.logName)]

/-- What is told while a baseline is judged. -/
def Baseline.judgeEvents (b : Baseline) (today : Date) : List Log.Event :=
  b.repeatedIds.map repeatEvent ++ (b.failingOn today).map Entry.event

namespace Gate

/-- The start of a check. -/
def startEvent (location : Location) (today : Date) : Log.Event where
  level := .debug
  target := checkTarget
  message := "Evaluating advisory baseline"
  fields := [("path", location.path), ("source", location.source.name), ("today", today.text)]

/-- There is no baseline at a path. -/
def absentEvent (path : String) : Log.Event where
  level := .debug
  target := loadTarget
  message := "Baseline file not present"
  fields := [("path", path)]

/-- A baseline was loaded from a path. -/
def loadedEvent (path : String) (b : Baseline) : Log.Event where
  level := .debug
  target := loadTarget
  message := "Loaded advisory baseline"
  fields := [("path", path), ("records", Decimal.text b.waivers.length)]

/-- What is told during a check. A fault is not told here, since it ends the run. -/
def events (files : Files) (location : Location) (today : Date) : List Log.Event :=
  startEvent location today ::
    match load files location.path with
    | .error _ => []
    | .ok none => [absentEvent location.path]
    | .ok (some b) => loadedEvent location.path b :: b.judgeEvents today

end Gate

end ExpiryGate
