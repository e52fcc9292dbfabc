import ExpiryGate.Toml.Shape
import ExpiryGate.Waiver.Baseline

namespace ExpiryGate

namespace Waiver

/-- The expected shape of a waiver, as messages name it. -/
def shapeName : String := "struct RawAdvisory"

/-- The text of an expiry; a value that is no string is written out. -/
def expiryOf (node : Toml.Node) : Except Toml.Complaint String :=
  node.value?.map Toml.Value.plainText

/-- The fields of a waiver that have been read so far. -/
structure Fields where
  id : Option String
  expires : Option String
  reason : Option String

/-- No field has been read yet. -/
def Fields.unread : Fields := ⟨none, none, none⟩

/-- Reads the entry of a field, and passes over any other entry. -/
def Fields.add (fields : Fields) (entry : String × Toml.Node) : Except Toml.Complaint Fields := do
  let (key, node) := entry
  if key = "id" then return { fields with id := some (← node.text?) }
  else if key = "expires" then return { fields with expires := some (← expiryOf node) }
  else if key = "reason" then return { fields with reason := some (← node.text?) }
  else
    node.pass
    return fields

/-- A waiver from the entries of its table, which are read in the order of their keys. -/
def ofEntries (entries : Toml.Entries) : Except Toml.Complaint Waiver := do
  let fields ← entries.foldlM Fields.add .unread
  return ofFields fields.id fields.expires fields.reason

/-- A waiver from an array that starts with identifier, expiry and reason. -/
def ofItems (source : List Char) (items : List Toml.Node) : Except Toml.Complaint Waiver := do
  let missing {α : Type} (count : Nat) : Except Toml.Complaint α :=
    .error ⟨source, .length count (shapeName ++ " with 3 elements")⟩
  match items with
  | [] => missing 0
  | id :: items =>
    let id ← id.text?
    match items with
    | [] => missing 1
    | expires :: items =>
      let expires ← expiryOf expires
      match items with
      | [] => missing 2
      | reason :: _ =>
        let reason ← reason.text?
        return ofFields (some id) (some expires) (some reason)

/-- A waiver from an item of the baseline. A date or time has no fields, but counts as a table. -/
def ofNode : Toml.Node → Except Toml.Complaint Waiver
  | .table _ _ entries => ofEntries entries
  | .array source _ items => ofItems source items
  | .leaf _ (.datetime _) => .ok (ofFields none none none)
  | node => node.refuse shapeName

/-- The waivers of all items, or the first complaint. -/
def ofNodes : List Toml.Node → Except Toml.Complaint (List Waiver)
  | [] => .ok []
  | node :: nodes => do
    let w ← ofNode node
    let ws ← ofNodes nodes
    return w :: ws

end Waiver

namespace Baseline

/-- The waivers of a node, which has to be an array. -/
def waiversOf : Toml.Node → Except Toml.Complaint (List Waiver)
  | .array _ _ items => Waiver.ofNodes items
  | node => node.refuse "a sequence"

/-- Reads the entry that holds the waivers, and passes over any other entry. -/
def addEntry (b : Baseline) (entry : String × Toml.Node) : Except Toml.Complaint Baseline := do
  let (key, node) := entry
  if key = "advisory" then return ⟨← waiversOf node⟩
  else
    node.pass
    return b

/-- The baseline in the entries of a document, which are read in the order of their keys. -/
def ofEntries (entries : Toml.Entries) : Except Toml.Complaint Baseline :=
  entries.foldlM addEntry ⟨[]⟩

/-- What is said of a document that is not well formed. -/
def notWellFormed : String := "not a well-formed TOML document"

/-- The baseline in a TOML document. -/
def ofToml (text : String) : Except Toml.Fault Baseline :=
  match Toml.readDocument text.toList with
  | none => .error (.unreadable notWellFormed)
  | some entries =>
    match ofEntries entries with
    | .ok baseline => .ok baseline
    | .error complaint => .error (complaint.toFault text.toList)

end Baseline

end ExpiryGate
