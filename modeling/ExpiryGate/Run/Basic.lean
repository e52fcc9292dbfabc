import ExpiryGate.Gate
import ExpiryGate.Settings
import ExpiryGate.Verdict.Json
import ExpiryGate.Verdict.Report

namespace ExpiryGate

/-- How the output takes a report. -/
inductive Sink where
  | works
  | writeFails (error : SystemError)
  /-- The report is taken, but cannot be passed on. -/
  | flushFails (error : SystemError)

/-- How a run ends. -/
inductive Ending where
  /-- The report on this verdict was written. -/
  | judged (verdict : Verdict)
  /-- There is no verdict. -/
  | refused (fault : Fault)
  /-- The report could not be written; `task` is what was being done. -/
  | unwritten (task : String) (error : SystemError)

namespace Ending

/-- The exit code of an ending. A report that cannot be written ends in an internal fault. -/
def exitCode : Ending → ExitCode
  | judged verdict => verdict.exitCode
  | refused fault => fault.exitCode
  | unwritten .. => .internal

/-- What a user is told about a failure. -/
def notice : Ending → String
  | judged _ => ""
  | refused fault => "✗ " ++ fault.explanation ++ "\n"
  | unwritten task error => "✗ Unexpected error: " ++ task ++ ": " ++ error.text ++ "\n"

end Ending

/-- What a run leaves behind. -/
structure Outcome where
  /-- The text that has reached the output. -/
  written : String
  ending : Ending

/-- A run without a verdict writes nothing. -/
def Outcome.refused (fault : Fault) : Outcome :=
  ⟨"", .refused fault⟩

namespace Verdict

/-- The report in the form that was asked for. -/
def output (v : Verdict) (json : Bool) : String :=
  if json then v.jsonReport ++ "\n" else v.report

/-- What is being done while a report of this form is written. -/
def writeTask (json : Bool) : String :=
  if json then "Failed to write gate JSON" else "Failed to write gate report"

/-- What is being done while a report is passed on. -/
def flushTask : String := "Failed to flush gate report"

/-- Writes the report on a verdict. -/
def writeTo (v : Verdict) (json : Bool) : Sink → Outcome
  | .works => ⟨v.output json, .judged v⟩
  | .writeFails error => ⟨"", .unwritten (writeTask json) error⟩
  | .flushFails error => ⟨v.output json, .unwritten flushTask error⟩

end Verdict

namespace Settings

/-- Checks the baseline and writes the report. Nothing is written before there is a verdict. -/
def check (settings : Settings) (files : Files) (sink : Sink) : Outcome :=
  match Gate.check files settings.location.path settings.today with
  | .error fault => .refused fault
  | .ok verdict => verdict.writeTo settings.json sink

end Settings

/-- A run with these options in the directory `start`. -/
def Options.run (options : Options) (files : Files) (start : String) (environment : Option String)
    (clock : Date) (sink : Sink) : Outcome :=
  match Settings.discover files start environment clock options with
  | .error fault => .refused fault
  | .ok settings => settings.check files sink

end ExpiryGate
