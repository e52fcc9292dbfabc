import ExpiryGate.Toml.Writer
import ExpiryGate.Waiver.Baseline

namespace ExpiryGate

/-- A key with a string as its value, on a line of its own. -/
def Toml.stringLine (key value : String) : List Char :=
  key.toList ++ ' ' :: '=' :: ' ' :: (Toml.quoteString value ++ ['\n'])

/-- The table of a waiver. -/
def Waiver.tomlChars (w : Waiver) : List Char :=
  "[[advisory]]\n".toList ++ Toml.stringLine "id" w.id ++
    (match w.expires with
      | some expires => Toml.stringLine "expires" expires
      | none => []) ++
    Toml.stringLine "reason" w.reason

/-- The document of a baseline. -/
def Baseline.toToml (b : Baseline) : String :=
  String.ofList (b.waivers.flatMap Waiver.tomlChars)

end ExpiryGate
