import ExpiryGate.Calendar.Expiry
import ExpiryGate.CommandLine.Options
import ExpiryGate.Location

namespace ExpiryGate

/-- What a run needs to know. -/
structure Settings where
  location : Location
  /-- The day on which the baseline is judged. -/
  today : Date
  json : Bool
  verbose : Bool
deriving DecidableEq

namespace Settings

/-- The day that the options name, in the form of an expiry date, or else the day of the clock. -/
def todayOf (options : Options) (clock : Date) : Except Fault Date :=
  match options.today with
  | none => .ok clock
  | some text =>
    match Date.ofExpiry? text with
    | some today => .ok today
    | none => .error (.invalidValue "today" text)

/-- The settings of a run in the directory `start`. A wrong day is noticed before a baseline that
    does not exist. -/
def discover (files : Files) (start : String) (environment : Option String) (clock : Date)
    (options : Options) : Except Fault Settings := do
  let today ← todayOf options clock
  let location ← Location.resolve files start options.baseline environment
  return ⟨location, today, options.json, options.verbose⟩

/-- The settings of a run in the current directory, if there is one. -/
def discoverHere (files : Files) (directory : Except SystemError String)
    (environment : Option String) (clock : Date) (options : Options) : Except Fault Settings :=
  match directory with
  | .error e => .error (Location.noDirectory e)
  | .ok start => discover files start environment clock options

end Settings

end ExpiryGate
