import ExpiryGate.Text.Quoted
import ExpiryGate.Toml.Position
import ExpiryGate.Toml.Reader
import ExpiryGate.Toml.Writer

namespace ExpiryGate.Toml

/-- What was found in place of the expected. Dates and times count as maps. -/
inductive Found where
  | integer (n : Int)
  | float (x : Binary64)
  | boolean (b : Bool)
  | string (s : String)
  | sequence
  | map

/-- An integer with the width that it needs beyond 64 bits. -/
def integerText (n : Int) : String :=
  let name := "integer `" ++ String.ofList (Decimal.signed n) ++ "`"
  if fits 64 n then name
  else if fitsSigned 128 n then name ++ " as i128"
  else name ++ " as u128"

/-- What was found, as messages name it. -/
def Found.text : Found → String
  | .integer n => integerText n
  | .float .nan => "floating point `NaN`"
  | .float x => "floating point `" ++ String.ofList (floatChars x) ++ "`"
  | .boolean b => if b then "boolean `true`" else "boolean `false`"
  | .string s => "string " ++ Text.quoted s
  | .sequence => "sequence"
  | .map => "map"

/-- What a node is found to be, unless it is a number without a value. -/
def Node.found? : Node → Option Found
  | .leaf _ (.integer n) => some (.integer n)
  | .leaf _ (.float x) => some (.float x)
  | .leaf _ (.boolean b) => some (.boolean b)
  | .leaf _ (.string s) => some (.string s)
  | .leaf _ (.datetime _) => some .map
  | .misfit _ => none
  | .array .. => some .sequence
  | .table .. => some .map

/-- Why a well-formed document is refused. -/
inductive Mismatch where
  /-- The value is of another type than expected. -/
  | type (found : Found) (expected : String)
  /-- An array has too few items. -/
  | length (count : Nat) (expected : String)
  /-- The value is of the expected type, but outside its range. -/
  | range (text : String)

/-- What is said of a mismatch. -/
def Mismatch.message : Mismatch → String
  | .type found expected => "invalid type: " ++ found.text ++ ", expected " ++ expected
  | .length count expected =>
    "invalid length " ++ Decimal.text count ++ ", expected " ++ expected
  | .range text => text

/-- A mismatch with the text that starts at the value to blame. -/
structure Complaint where
  source : List Char
  mismatch : Mismatch

/-- The number that starts at `source` has no value. -/
def Complaint.ofMisfit (source : List Char) : Complaint :=
  ⟨source, .range "number out of range"⟩

/-- The value is not what was expected, or there is no value. -/
def Node.refuse {α : Type} (node : Node) (expected : String) : Except Complaint α :=
  match node.found? with
  | some found => .error ⟨node.source, .type found expected⟩
  | none => .error (.ofMisfit node.source)

/-- A string. -/
def Node.text? : Node → Except Complaint String
  | .leaf _ (.string s) => .ok s
  | node => node.refuse "a string"

/-- A table whose first key is this one stands for the date or time in the string below it. -/
def datetimeKey : String := "$__toml_private_datetime"

/-- The date or time in a string. -/
def Node.datetime? : Node → Except Complaint Value
  | .leaf source (.string s) =>
    match Datetime.read? s.toList with
    | some d => .ok (.scalar (.datetime d))
    | none => .error ⟨source, .range "invalid datetime"⟩
  | node => node.refuse "string containing a datetime"

mutual

/-- The value of a node. Its integers have to fit 64 bits with a sign; of several mismatches the
    first one is reported. -/
def Node.value? : Node → Except Complaint Value
  | .leaf source (.integer n) =>
    if fitsSigned 64 n then .ok (.scalar (.integer n))
    else if fitsUnsigned 64 n then .error ⟨source, .range "u64 value was too large"⟩
    else .error ⟨source, .type (.integer n) "any valid TOML value"⟩
  | .leaf _ scalar => .ok (.scalar scalar)
  | .misfit source => .error (.ofMisfit source)
  | .array _ _ items =>
    match itemValues? items with
    | .ok items => .ok (.array items)
    | .error complaint => .error complaint
  | .table _ _ entries =>
    match entries with
    | [] => .ok (.table [])
    | (key, node) :: _ =>
      if key = datetimeKey then node.datetime?
      else
        match entryListValues? entries with
        | .ok entries => .ok (.table entries)
        | .error complaint => .error complaint

/-- The values of all items, or the first complaint. -/
def itemValues? : List Node → Except Complaint (List Value)
  | [] => .ok []
  | node :: nodes =>
    match node.value? with
    | .error complaint => .error complaint
    | .ok item =>
      match itemValues? nodes with
      | .error complaint => .error complaint
      | .ok items => .ok (item :: items)

/-- The values of all entries under their keys, or the first complaint. -/
def entryListValues? : List (String × Node) → Except Complaint (List (String × Value))
  | [] => .ok []
  | e :: entries =>
    match entryValue? e with
    | .error complaint => .error complaint
    | .ok entry =>
      match entryListValues? entries with
      | .error complaint => .error complaint
      | .ok entries => .ok (entry :: entries)

/-- The value of an entry under its key. -/
def entryValue? : String × Node → Except Complaint (String × Value)
  | (key, node) =>
    match node.value? with
    | .ok value => .ok (key, value)
    | .error complaint => .error complaint

end

mutual

/-- Where the first number without a value in a node starts. -/
def Node.misfit? : Node → Option (List Char)
  | .leaf .. => none
  | .misfit source => some source
  | .array _ _ items => itemsMisfit? items
  | .table _ _ entries => entryListMisfit? entries

/-- The first number without a value among the items. -/
def itemsMisfit? : List Node → Option (List Char)
  | [] => none
  | node :: nodes => node.misfit?.or (itemsMisfit? nodes)

/-- The first number without a value among the entries. -/
def entryListMisfit? : List (String × Node) → Option (List Char)
  | [] => none
  | e :: entries => (entryMisfit? e).or (entryListMisfit? entries)

/-- The first number without a value in the node of an entry. -/
def entryMisfit? : String × Node → Option (List Char)
  | (_, node) => node.misfit?

end

/-- Passes over a value that nothing is asked of. Its numbers still need to have values. -/
def Node.pass (node : Node) : Except Complaint Unit :=
  match node.misfit? with
  | none => .ok ()
  | some source => .error (.ofMisfit source)

/-- Why a text is refused as a document of the expected shape. -/
inductive Fault where
  /-- The text is not well formed, or a value in it is out of range. -/
  | unreadable (diagnosis : String)
  /-- The value at a position does not have the expected shape. -/
  | shape (position : Position) (mismatch : Mismatch)

/-- A fault of a document for a complaint about it. -/
def Complaint.toFault (text : List Char) (c : Complaint) : Fault :=
  match c.mismatch with
  | .range diagnosis => .unreadable diagnosis
  | mismatch => .shape (.ofSource text c.source) mismatch

/-- What is wrong, without the place. -/
def Fault.summary : Fault → String
  | .unreadable diagnosis => diagnosis
  | .shape _ mismatch => mismatch.message

/-- What is wrong, by the place if it is known. -/
def Fault.message : Fault → String
  | .unreadable diagnosis => diagnosis
  | .shape position _ =>
    "TOML parse error at line " ++ Decimal.text position.line ++
      ", column " ++ Decimal.text position.column

end ExpiryGate.Toml
