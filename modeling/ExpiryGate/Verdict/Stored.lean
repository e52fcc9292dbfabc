import ExpiryGate.Json.Reader
import ExpiryGate.Json.Shape
import ExpiryGate.Verdict.Basic

namespace ExpiryGate

open Json (Read field? require)

namespace Waiver

/-- The shape of a stored waiver, as messages name it. -/
def storedShape : Json.RecordShape := ⟨"AdvisoryException", 3⟩

/-- A waiver from the members of an object. They are taken in the order of their keys, and only then
    missing ones are noticed, in the order of the fields. -/
def ofMembers (members : List (String × Json)) : Read Waiver := do
  let expires ← field? members "expires" Json.readOptionalText
  let id ← field? members "id" Json.readText
  let reason ← field? members "reason" Json.readText
  return ⟨← require "id" id, expires.join, ← require "reason" reason⟩

/-- A waiver from an array of its fields in their order. -/
def ofStoredItems (items : List Json) : Read Waiver := do
  let id ← storedShape.next items 0 Json.readText
  let expires ← storedShape.next items 1 Json.readOptionalText
  let reason ← storedShape.next items 2 Json.readText
  return ⟨id, expires, reason⟩

/-- The waiver in a JSON value. -/
def ofJson : Json → Read Waiver :=
  storedShape.read ofMembers ofStoredItems

end Waiver

namespace Baseline

/-- The shape of a stored baseline. -/
def storedShape : Json.RecordShape := ⟨"BaselineDocument", 1⟩

/-- A baseline from the members of an object, which has one field. -/
def ofMembers (members : List (String × Json)) : Read Baseline := do
  let waivers ← field? members "exceptions" (Json.readList Waiver.ofJson)
  return ⟨← require "exceptions" waivers⟩

/-- A baseline from an array that holds the list of its waivers. -/
def ofStoredItems (items : List Json) : Read Baseline := do
  let waivers ← storedShape.next items 0 (Json.readList Waiver.ofJson)
  return ⟨waivers⟩

/-- The baseline in a JSON value. -/
def ofJson : Json → Read Baseline :=
  storedShape.read ofMembers ofStoredItems

end Baseline

namespace Status

/-- The status with a given label. -/
def ofName (name : String) : Read Status :=
  match ofLabel? name with
  | some s => .ok s
  | none => .error (.unknownVariant name (all.map label))

/-- A status is a name, or an object with the name as its only key and null below it. -/
def ofJson : Json → Read Status
  | .string name => ofName name
  | .object [(name, value)] => do
    let s ← ofName name
    match value with
    | .null => .ok s
    | value => .error (.type value "unit")
  | .object members => .error (.value (.object members) "map with a single key")
  | value => .error (.type value "string or map")

end Status

namespace Entry

/-- The shape of a stored entry. -/
def storedShape : Json.RecordShape := ⟨"ClassifiedException", 6⟩

/-- An entry from the members of an object. The expiry and its date may be null or absent. -/
def ofMembers (members : List (String × Json)) : Read Entry := do
  let expires ← field? members "expires" Json.readOptionalText
  let expiresDate ← field? members "expires_date" Json.readOptionalDate
  let id ← field? members "id" Json.readText
  let message ← field? members "message" Json.readText
  let reason ← field? members "reason" Json.readText
  let status ← field? members "status" Status.ofJson
  let id ← require "id" id
  let reason ← require "reason" reason
  let status ← require "status" status
  let message ← require "message" message
  return ⟨id, expires.join, expiresDate.join, reason, status, message⟩

/-- An entry from an array of its fields in their order, where an expiry that is absent is null. -/
def ofStoredItems (items : List Json) : Read Entry := do
  let id ← storedShape.next items 0 Json.readText
  let expires ← storedShape.next items 1 Json.readOptionalText
  let expiresDate ← storedShape.next items 2 Json.readOptionalDate
  let reason ← storedShape.next items 3 Json.readText
  let status ← storedShape.next items 4 Status.ofJson
  let message ← storedShape.next items 5 Json.readText
  return ⟨id, expires, expiresDate, reason, status, message⟩

/-- The entry in a JSON value. -/
def ofJson : Json → Read Entry :=
  storedShape.read ofMembers ofStoredItems

end Entry

namespace Verdict

/-- The shape of a stored verdict. -/
def storedShape : Json.RecordShape := ⟨"GateResult", 9⟩

/-- A verdict from the members of an object. All fields have to be there. -/
def ofMembers (members : List (String × Json)) : Read Verdict := do
  let active ← field? members "active" (Json.readList Entry.ofJson)
  let baseline ← field? members "baseline" Json.readText
  let baselineFound ← field? members "baseline_found" Json.readBoolean
  let failing ← field? members "failing" (Json.readList Entry.ofJson)
  let passed ← field? members "passed" Json.readBoolean
  let schemaVersion ← field? members "schema_version" Json.readText
  let summary ← field? members "summary" Json.readText
  let today ← field? members "today" Json.readDate
  let total ← field? members "total" Json.readCount
  let schemaVersion ← require "schema_version" schemaVersion
  let baseline ← require "baseline" baseline
  let baselineFound ← require "baseline_found" baselineFound
  let today ← require "today" today
  let passed ← require "passed" passed
  let summary ← require "summary" summary
  let total ← require "total" total
  let active ← require "active" active
  let failing ← require "failing" failing
  return ⟨schemaVersion, baseline, baselineFound, today, passed, summary, total, active, failing⟩

/-- A verdict from an array of its fields in their order. -/
def ofStoredItems (items : List Json) : Read Verdict := do
  let schemaVersion ← storedShape.next items 0 Json.readText
  let baseline ← storedShape.next items 1 Json.readText
  let baselineFound ← storedShape.next items 2 Json.readBoolean
  let today ← storedShape.next items 3 Json.readDate
  let passed ← storedShape.next items 4 Json.readBoolean
  let summary ← storedShape.next items 5 Json.readText
  let total ← storedShape.next items 6 Json.readCount
  let active ← storedShape.next items 7 (Json.readList Entry.ofJson)
  let failing ← storedShape.next items 8 (Json.readList Entry.ofJson)
  return ⟨schemaVersion, baseline, baselineFound, today, passed, summary, total, active, failing⟩

/-- The verdict in a JSON value. -/
def ofJson : Json → Read Verdict :=
  storedShape.read ofMembers ofStoredItems

/-- The verdict in a JSON text, if it is one. -/
def ofJsonReport? (text : String) : Option Verdict :=
  (Json.read? text).bind fun value => (ofJson value).toOption

end Verdict

end ExpiryGate
