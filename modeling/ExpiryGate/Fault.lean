import ExpiryGate.ExitCode
import ExpiryGate.Files.Basic
import ExpiryGate.Toml.Shape

namespace ExpiryGate

/-- Why there is no verdict. All faults end a run with the same exit code. -/
inductive Fault where
  /-- A setting has a value that it cannot have. -/
  | invalidValue (key value : String)
  /-- The place of the baseline could not be worked out. -/
  | discoveryFailed (reason : String)
  /-- The baseline that was asked for does not exist. -/
  | notFound (path : String)
  | readFailed (path : String) (error : SystemError)
  | parseFailed (path : String) (cause : Toml.Fault)
  | io (error : SystemError)

/-- What a fault is about. -/
inductive Fault.Category where
  | configuration
  | fileSystem
  | validation
deriving DecidableEq, Repr

/-- The name of a category in explanations. -/
def Fault.Category.name : Fault.Category → String
  | .configuration => "Configuration"
  | .fileSystem => "File System"
  | .validation => "Validation"

namespace Fault

/-- The fault in one technical sentence. -/
def detail : Fault → String
  | .invalidValue key value => "Invalid configuration value for " ++ key ++ ": " ++ value
  | .discoveryFailed reason => "Baseline discovery failed: " ++ reason
  | .notFound path => "Baseline file not found: " ++ path
  | .readFailed path error => "Failed to read baseline file " ++ path ++ ": " ++ error.text
  | .parseFailed path cause => "Failed to parse baseline TOML " ++ path ++ ": " ++ cause.message
  | .io error => error.text

/-- The area that a fault belongs to, as its messages begin. -/
def area : Fault → String
  | .invalidValue .. => "Configuration error: "
  | .discoveryFailed .. => "Configuration error: "
  | .notFound .. => "Baseline error: "
  | .readFailed .. => "Baseline error: "
  | .parseFailed .. => "Baseline error: "
  | .io .. => "IO error: "

/-- The fault with its area. -/
def message (fault : Fault) : String :=
  fault.area ++ fault.detail

/-- The fault in the words of a user. -/
def userMessage : Fault → String
  | .invalidValue key value => "Configuration '" ++ key ++ "' has invalid value: " ++ value
  | .discoveryFailed reason => "Could not locate the advisory baseline: " ++ reason
  | .notFound path => "Baseline file not found: " ++ path
  | .readFailed path error => "Could not read baseline file " ++ path ++ ": " ++ error.text
  | .parseFailed path cause => "Baseline file " ++ path ++ " is not valid: " ++ cause.summary
  | .io error => "I/O failure: " ++ error.text

/-- What a user should know about the circumstances. -/
def context? : Fault → Option String
  | .invalidValue key _ =>
    some ("The '" ++ key ++ "' option has specific format requirements.")
  | .discoveryFailed .. =>
    some "The baseline is looked up at security/advisory-baseline.toml under the repository root."
  | .notFound .. =>
    some ("An explicitly requested baseline must exist; only the default location may be " ++
      "absent.")
  | .readFailed .. => none
  | .parseFailed .. =>
    some "The baseline is a TOML document with one [[advisory]] table per exception."
  | .io .. => none

/-- What a user can do. -/
def suggestions : Fault → List String
  | .invalidValue key _ =>
    if key = "today" then
      ["Use a calendar date in YYYY-MM-DD form (e.g., 2026-01-31)",
        "Omit --today to use the current local date"]
    else ["Run with --help to see accepted values"]
  | .discoveryFailed .. =>
    ["Run from inside the repository checkout",
      "Pass the baseline path explicitly with --baseline"]
  | .notFound .. =>
    ["Check the path passed to --baseline",
      "Drop --baseline to use security/advisory-baseline.toml"]
  | .readFailed .. => ["Check file permissions"]
  | .parseFailed .. =>
    ["Check the TOML syntax using a TOML validator",
      "Ensure id, expires and reason are quoted strings"]
  | .io .. => []

/-- The category that an explanation puts the fault under. -/
def category : Fault → Category
  | .invalidValue .. => .configuration
  | .discoveryFailed .. => .configuration
  | .notFound .. => .fileSystem
  | .readFailed .. => .fileSystem
  | .parseFailed .. => .validation
  | .io .. => .fileSystem

/-- The whole explanation of a fault: what happened, the circumstances and what can be done. -/
def explanation (fault : Fault) : String :=
  let context := match fault.context? with
    | some context => "\nContext: " ++ context ++ "\n"
    | none => ""
  let suggestions := match fault.suggestions with
    | [] => ""
    | found => "\nSuggestions:\n" ++ String.join (found.map fun s => "  • " ++ s ++ "\n")
  "Error: " ++ fault.userMessage ++ "\n" ++ context ++ suggestions

/-- Every fault is one of the settings or of the baseline. -/
def exitCode (_ : Fault) : ExitCode :=
  .configError

end Fault

end ExpiryGate
