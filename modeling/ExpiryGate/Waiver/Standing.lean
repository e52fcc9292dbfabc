import ExpiryGate.Calendar.Expiry
import ExpiryGate.Waiver.Basic

namespace ExpiryGate

/-- What the expiry of a waiver amounts to on a given day. A waiver holds if its expiry is a date on
    or after that day; one without such a date fails, whether the date is missing, unreadable or
    past. -/
inductive Standing where
  | active (expires : Date)
  | missingExpiry
  | invalidDate
  | expired (expires : Date)
deriving DecidableEq

namespace Standing

/-- Only an active waiver holds. -/
def isFailure : Standing → Bool
  | .active _ => false
  | _ => true

/-- The expiry date, if there is one. -/
def date? : Standing → Option Date
  | .active expires => some expires
  | .expired expires => some expires
  | _ => none

end Standing

/-- The standing of a waiver with this expiry text. An empty text counts as a missing one, and the
    day of expiry itself is still within the window. -/
def standingOf (expires : Option String) (today : Date) : Standing :=
  match expires with
  | none => .missingExpiry
  | some text =>
    if text = "" then .missingExpiry
    else
      match Date.ofExpiry? text with
      | none => .invalidDate
      | some date => if date < today then .expired date else .active date

/-- The standing of a waiver on a day. -/
def Waiver.standing (w : Waiver) (today : Date) : Standing :=
  standingOf w.expires today

/-- The kinds of standing, as they are reported. -/
inductive Status where
  | active
  | missingExpiry
  | invalidDate
  | expired
deriving DecidableEq, Repr

/-- The kind of a standing. -/
def Standing.status : Standing → Status
  | .active _ => .active
  | .missingExpiry => .missingExpiry
  | .invalidDate => .invalidDate
  | .expired _ => .expired

/-- A standing is no failure iff its kind is the active one. -/
theorem Standing.isFailure_eq_false_iff (s : Standing) :
    s.isFailure = false ↔ s.status = .active := by
  cases s <;> simp [isFailure, status]

namespace Status

/-- All kinds of standing, in the order in which messages list them. -/
def all : List Status := [.active, .missingExpiry, .invalidDate, .expired]

/-- The name of a status in JSON. -/
def label : Status → String
  | .active => "active"
  | .missingExpiry => "missing_expiry"
  | .invalidDate => "invalid_date"
  | .expired => "expired"

/-- The name of a status in log lines. -/
def logName : Status → String
  | .active => "Active"
  | .missingExpiry => "MissingExpiry"
  | .invalidDate => "InvalidDate"
  | .expired => "Expired"

/-- The status with this name in JSON. -/
def ofLabel? (label : String) : Option Status :=
  all.find? (·.label = label)

/-- The labels tell the four statuses apart. -/
theorem ofLabel?_label (s : Status) : ofLabel? s.label = some s := by
  cases s <;> decide

end Status

end ExpiryGate
