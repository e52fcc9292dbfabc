namespace ExpiryGate

/-- The status that a run ends with. It is the answer of the program that other programs read. -/
structure ExitCode where
  value : Int
deriving DecidableEq, Repr

namespace ExitCode

/-- There is no baseline, or every waiver holds. -/
def success : ExitCode := ⟨0⟩

/-- At least one waiver does not hold. -/
def policyViolation : ExitCode := ⟨1⟩

/-- The settings are wrong, or the baseline could not be read. -/
def configError : ExitCode := ⟨2⟩

/-- Something unexpected happened, such as a report that could not be written. -/
def internal : ExitCode := ⟨3⟩

/-- The name of a code that has a meaning. -/
def name? (code : ExitCode) : Option String :=
  if code = success then some "SUCCESS"
  else if code = policyViolation then some "POLICY_VIOLATION"
  else if code = configError then some "CONFIG_ERROR"
  else if code = internal then some "INTERNAL"
  else none

end ExitCode

end ExpiryGate
