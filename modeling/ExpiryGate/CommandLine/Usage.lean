import ExpiryGate.CommandLine.Options
import ExpiryGate.ExitCode
import ExpiryGate.Text.Lines
import ExpiryGate.Text.Terminal

namespace ExpiryGate.Options

/-- The text that a request for the version gives. -/
def versionText : String := "advisory-policy 1.0.0\n"

/-- What the program is for, in one line. -/
def synopsis : String :=
  "Fail the build if any accepted security-advisory exception has expired"

/-- What the program is for, at length. -/
def description : List String := [
  "advisory-policy reads the baseline of accepted security-advisory exceptions",
  "(security/advisory-baseline.toml under the repository root) and checks every",
  "exception's expiry date against today.",
  "",
  "Exceptions with a missing, malformed or past expiry date fail the gate.",
  "A missing baseline file means there is nothing to enforce.",
  "",
  "EXAMPLES:",
  "  # Check the default baseline",
  "  advisory-policy",
  "",
  "  # Check a specific file as of a fixed date",
  "  advisory-policy --baseline ci/advisories.toml --today 2026-01-31",
  "",
  "  # Emit the result as canonical JSON",
  "  advisory-policy --json",
  "",
  "BASELINE FORMAT:",
  "  [[advisory]]",
  "  id = \"RUSTSEC-2024-0001\"",
  "  expires = \"2026-03-31\"",
  "  reason = \"no patched release yet\"",
  "",
  "EXIT CODES:",
  "  0  No baseline, or every exception is within its expiry window",
  "  1  One or more exceptions are expired or lack a valid expiry date",
  "  2  Invalid arguments, or the baseline could not be read or parsed",
  "  3  Unexpected failure while writing the report",
  "",
  "ENVIRONMENT:",
  "  ADVISORY_BASELINE  Baseline path used when --baseline is not given",
  "  RUST_LOG           Log filter (logs are written to stderr)",
  "",
  ""]

/-- The line that shows how the program is called. -/
def usageLine : String := "Usage: advisory-policy [OPTIONS]"

/-- An option as help lists it: how it is written, and what it does in the short and in the long
    form of help. -/
structure HelpItem where
  usage : String
  brief : String
  long : String

/-- The options in the order in which help lists them. -/
def helpItems : List HelpItem := [
  ⟨"    --baseline <PATH>", "Path to the baseline file (must exist when given)",
    "Path to the baseline file (must exist when given)"⟩,
  ⟨"    --today <DATE>", "Reference date in YYYY-MM-DD form (default: today's local date)",
    "Reference date in YYYY-MM-DD form (default: today's local date)"⟩,
  ⟨"    --json", "Output the gate result as JSON (advisory-gate.v1 schema)",
    "Output the gate result as JSON (advisory-gate.v1 schema)"⟩,
  ⟨"-v, --verbose", "Enable debug logging on stderr", "Enable debug logging on stderr"⟩,
  ⟨"-h, --help", "Print help (see more with '--help')", "Print help (see a summary with '-h')"⟩,
  ⟨"-V, --version", "Print version", "Print version"⟩]

/-- The width of the first column in the short form of help. -/
def usageWidth : Nat := 21

/-- A text filled up with spaces to a width. -/
def padRight (width : Nat) (s : String) : String :=
  s ++ String.ofList (List.replicate (width - s.length) ' ')

/-- An option on one line, as short help lists it. -/
def HelpItem.briefLine (item : HelpItem) : String :=
  "  " ++ padRight usageWidth item.usage ++ "  " ++ item.brief

/-- An option on two lines, as long help lists it. -/
def HelpItem.longLines (item : HelpItem) : List String :=
  ["  " ++ item.usage, "          " ++ item.long]

/-- Help in its short form has one line per option. -/
def briefHelp : String :=
  Text.unlines ([synopsis, "", usageLine, "", "Options:"] ++ helpItems.map HelpItem.briefLine)

/-- Help in its long form has a paragraph per option. -/
def longHelp : String :=
  Text.unlines (description ++ [usageLine, "", "Options:"] ++
    List.intercalate [""] (helpItems.map HelpItem.longLines))

/-- What is said to a user: the text that was asked for, or a complaint. The arguments to blame are
    shown without terminal controls. -/
def Stop.message : Stop → String
  | .unknownArgument argument =>
    "error: unexpected argument '" ++ Text.withoutControls argument ++ "' found"
  | .valueMissing setting =>
    "error: a value is required for '" ++ setting.usage ++ "' but none was supplied"
  | .repeatedSetting setting =>
    "error: the argument '" ++ setting.usage ++ "' cannot be used multiple times"
  | .repeatedFlag flag => "error: the argument '" ++ flag.usage ++ "' cannot be used multiple times"
  | .unexpectedValue value flag =>
    "error: unexpected value '" ++ Text.withoutControls value ++ "' for '" ++ flag.usage ++
      "' found; no more were expected"
  | .help isLong => if isLong then longHelp else briefHelp
  | .version => versionText

/-- The user has asked for a text that answers to the request. -/
def Stop.isAnswer : Stop → Bool
  | .help _ => true
  | .version => true
  | _ => false

/-- To be told what one has asked for is a success. -/
def Stop.exitCode (stop : Stop) : ExitCode :=
  if stop.isAnswer then .success else .configError

end ExpiryGate.Options
