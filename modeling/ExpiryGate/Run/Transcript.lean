import ExpiryGate.CommandLine.Usage
import ExpiryGate.Gate.Events
import ExpiryGate.Log.Filter
import ExpiryGate.Run.Basic

namespace ExpiryGate

/-- What a run finds around it. -/
structure Surroundings where
  files : Files
  /-- The current directory. -/
  directory : Except SystemError String
  /-- The path of the baseline in the environment. -/
  baseline : Option String
  /-- The log filter in the environment. -/
  logFilter : Option String
  clock : Date
  sink : Sink

/-- How a call of the program ends. -/
inductive Conclusion where
  /-- The arguments did not lead to a run. -/
  | stopped (stop : Options.Stop)
  | ran (ending : Ending)

namespace Conclusion

/-- The exit code of a call, whether it led to a run or not. -/
def exitCode : Conclusion → ExitCode
  | stopped stop => stop.exitCode
  | ran ending => ending.exitCode

/-- What a user is told apart from the report. -/
def notice : Conclusion → String
  | stopped stop => if stop.isAnswer then "" else stop.message ++ "\n"
  | ran ending => ending.notice

end Conclusion

/-- All that can be seen of a call of the program. -/
structure Transcript where
  written : String
  /-- The lines of the log, each of which can hold line feeds. -/
  log : List String
  conclusion : Conclusion

/-- The target of the events on the run. -/
def runTarget : String := "advisory_policy::cli::commands"

namespace Verdict

/-- There is a verdict. -/
def reachedEvent (v : Verdict) : Log.Event where
  level := .debug
  target := runTarget
  message := "Gate evaluated"
  fields := [("baseline", v.baseline), ("total", Decimal.text v.total),
    ("active", Decimal.text v.active.length), ("failing", Decimal.text v.failing.length)]

/-- The report on a verdict is written. -/
def writtenEvent (v : Verdict) : Log.Event where
  level := .info
  target := runTarget
  message := v.summary
  fields := if v.passed then [] else [("failing", Decimal.text v.failing.length)]

end Verdict

namespace Settings

/-- All events of a run with these settings. -/
def events (settings : Settings) (files : Files) (sink : Sink) : List Log.Event :=
  Gate.events files settings.location settings.today ++
    match Gate.check files settings.location.path settings.today with
    | .error _ => []
    | .ok v =>
      v.reachedEvent ::
        match (v.writeTo settings.json sink).ending with
        | .judged v => [v.writtenEvent]
        | _ => []

end Settings

namespace Surroundings

/-- A run with these options. -/
def run (s : Surroundings) (options : Options) : Transcript :=
  match Settings.discoverHere s.files s.directory s.baseline s.clock options with
  | .error fault => ⟨"", [], .ran (.refused fault)⟩
  | .ok settings =>
    let outcome := settings.check s.files s.sink
    let shown := (settings.events s.files s.sink).filter
      (Log.Filter.choose s.logFilter options.verbose).shows
    ⟨outcome.written, shown.map (·.line options.verbose), .ran outcome.ending⟩

/-- A call of the program. A text that was asked for is written in place of a report. -/
def call (s : Surroundings) (arguments : List String) : Transcript :=
  match Options.parse arguments with
  | .error stop =>
    let answer := match stop.isAnswer, s.sink with
      | true, .works => stop.message
      | _, _ => ""
    ⟨answer, [], .stopped stop⟩
  | .ok options => s.run options

end Surroundings

end ExpiryGate
