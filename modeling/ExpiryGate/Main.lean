import ExpiryGate.Run.Transcript
import Std.Time

namespace ExpiryGate

/-- What the operating system has said. -/
def SystemError.ofIO : IO.Error → SystemError
  | .noFileOrDirectory .. => .notFound
  | .inappropriateType .. => .isDirectory
  | .resourceExhausted .. => .noSpace
  | error => .other (toString error)

/-- What was seen at a path: whether anything is there, and what reading it gives. -/
structure Sight where
  path : String
  present : Bool
  contents : Except SystemError ByteArray

namespace Sight

/-- Something exists at the path. -/
def present? (path : String) : IO Bool := do
  try
    discard (IO.FS.realPath path)
    return true
  catch _ => return false

/-- The bytes of a file, or why it cannot be read. -/
def contents? (path : String) : IO (Except SystemError ByteArray) := do
  try
    return .ok (← IO.FS.readBinFile path)
  catch error => return .error (.ofIO error)

/-- Looks at a path. -/
def take (path : String) : IO Sight :=
  return ⟨path, ← present? path, ← contents? path⟩

/-- The files as far as they were looked at. -/
def files (sights : List Sight) : Files where
  present path := sights.any fun s => s.path = path && s.present
  contents path :=
    match sights.find? (·.path = path) with
    | some s => s.contents
    | none => .error .notFound

end Sight

/-- The paths at which a root mark is looked for, among `depth` directories upwards. -/
def Location.markPaths : Nat → String → List String
  | 0, _ => []
  | depth + 1, directory =>
    Path.join directory rootMark ::
      match Path.parent? directory with
      | some parent => markPaths depth parent
      | none => []

/-- The current directory. -/
def currentDirectory : IO (Except SystemError String) := do
  try
    return .ok (toString (← IO.currentDir))
  catch error => return .error (.ofIO error)

/-- The local date. -/
def clockDate : IO Date := do
  let now ← Std.Time.PlainDate.now
  match Date.ofParts? now.year.toInt now.month.toNat now.day.val.toNat with
  | some date => return date
  | none => throw (IO.userError "the clock is out of range")

/-- The files that a run with these arguments can ask for. -/
def lookAround (directory : Except SystemError String) (baseline : Option String)
    (arguments : List String) : IO Files := do
  let marks := match directory with
    | .ok start => Location.markPaths Location.searchDepth start
    | .error _ => []
  let explicit := match Options.parse arguments with
    | .ok options => options.baseline
    | .error _ => none
  let near ← (marks ++ explicit.toList).mapM Sight.take
  match Location.resolveHere (Sight.files near) directory explicit baseline with
  | .ok location => return Sight.files ((← Sight.take location.path) :: near)
  | .error _ => return Sight.files near

/-- Writes to the standard output and tells how that went. -/
def emit (text : String) : IO Sink := do
  let output ← IO.getStdout
  try
    output.putStr text
    output.flush
    return .works
  catch error => return .writeFails (.ofIO error)

/-- Runs the program and returns its exit code. -/
def runProgram (arguments : List String) : IO UInt32 := do
  let directory ← currentDirectory
  let baseline ← IO.getEnv Location.variableName
  let logFilter ← IO.getEnv Log.Filter.variableName
  let clock ← clockDate
  let files ← lookAround directory baseline arguments
  let surroundings : Surroundings := ⟨files, directory, baseline, logFilter, clock, .works⟩
  let sink ← emit (surroundings.call arguments).written
  let transcript := { surroundings with sink := sink }.call arguments
  for line in transcript.log do
    IO.eprintln line
  IO.eprint transcript.conclusion.notice
  return transcript.conclusion.exitCode.value.toNat.toUInt32

end ExpiryGate

/-- The command line program: it looks at the surroundings that a run can ask for and shows the
    transcript of the run. -/
def main (arguments : List String) : IO UInt32 :=
  ExpiryGate.runProgram arguments
