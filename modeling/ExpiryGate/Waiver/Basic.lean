namespace ExpiryGate

/-- A security advisory that is accepted for a limited time. The expiry is kept as it was written.
    -/
structure Waiver where
  id : String
  expires : Option String
  reason : String
deriving DecidableEq, Repr

namespace Waiver

/-- The identifier of a waiver that gives none. -/
def unknownId : String := "UNKNOWN"

/-- The reason of a waiver that gives none. -/
def defaultReason : String := "no reason given"

/-- A waiver with these fields, where missing ones are filled in. -/
def ofFields (id expires reason : Option String) : Waiver :=
  ⟨id.getD unknownId, expires, reason.getD defaultReason⟩

end Waiver

end ExpiryGate
