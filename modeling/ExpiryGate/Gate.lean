import ExpiryGate.Location
import ExpiryGate.Verdict.Basic
import ExpiryGate.Waiver.Toml

namespace ExpiryGate.Gate

/-- The baseline in a text read from `path`. -/
def parse (text path : String) : Except Fault Baseline :=
  match Baseline.ofToml text with
  | .ok baseline => .ok baseline
  | .error cause => .error (.parseFailed path cause)

/-- The baseline at a path, or none if nothing is there: a baseline that does not exist has nothing
    to enforce. -/
def load (files : Files) (path : String) : Except Fault (Option Baseline) :=
  if files.present path then
    match files.readText path with
    | .error e => .error (.readFailed path e)
    | .ok text => (parse text path).map some
  else .ok none

/-- The verdict on the baseline at a path. -/
def check (files : Files) (path : String) (today : Date) : Except Fault Verdict :=
  match load files path with
  | .error fault => .error fault
  | .ok none => .ok (.absent path today)
  | .ok (some baseline) => .ok (baseline.judge today path)

end ExpiryGate.Gate
