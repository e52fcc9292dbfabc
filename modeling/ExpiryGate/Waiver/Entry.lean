import ExpiryGate.Waiver.Standing

namespace ExpiryGate

/-- A waiver as a verdict lists it. -/
structure Entry where
  id : String
  expires : Option String
  expiresDate : Option Date
  reason : String
  status : Status
  message : String
deriving DecidableEq

namespace Entry

/-- The message for a waiver; it repeats the expiry as it was written. -/
def messageFor (expires reason : String) : Standing → String
  | .missingExpiry => "missing expiry date"
  | .invalidDate => "invalid date format '" ++ expires ++ "'"
  | .expired _ => "expired " ++ expires ++ " — " ++ reason
  | .active _ => "expires " ++ expires ++ " — " ++ reason

/-- The entry for a waiver of the given standing. -/
def ofStanding (w : Waiver) (s : Standing) : Entry where
  id := w.id
  expires := w.expires
  expiresDate := s.date?
  reason := w.reason
  status := s.status
  message := messageFor (w.expires.getD "") w.reason s

/-- The entry for a waiver on a day. -/
def ofWaiver (w : Waiver) (today : Date) : Entry :=
  ofStanding w (w.standing today)

/-- The waiver that an entry is about. -/
def waiver (e : Entry) : Waiver :=
  ⟨e.id, e.expires, e.reason⟩

theorem waiver_ofWaiver (w : Waiver) (today : Date) : (ofWaiver w today).waiver = w :=
  rfl

/-- The status of an entry is that of the waiver on the day of the check. -/
theorem status_ofWaiver (w : Waiver) (today : Date) :
    (ofWaiver w today).status = (w.standing today).status :=
  rfl

/-- The line of a report for this entry. -/
def line (e : Entry) : String :=
  "  " ++ e.id ++ ": " ++ e.message

end Entry

end ExpiryGate
