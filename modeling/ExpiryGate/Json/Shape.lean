import ExpiryGate.Calendar.Lenient
import ExpiryGate.Decimal.Shortest
import ExpiryGate.Json.Basic
import ExpiryGate.Text.Quoted

namespace ExpiryGate.Json

/-- Why a value is refused. -/
inductive Mismatch where
  /-- The value is of another type than expected. -/
  | type (found : Json) (expected : String)
  /-- The value is of the right type, but none of those expected. -/
  | value (found : Json) (expected : String)
  /-- An array has the wrong number of items. -/
  | length (count : Nat) (expected : String)
  | missingField (name : String)
  | unknownVariant (name : String) (known : List String)
  | date (fault : DateFault)

/-- In messages, doubles from `10 ^ 16` on and below `10 ^ -5` are written with an exponent. -/
def messageLayout : Decimal.Layout where
  tie := .even
  positional point := -5 < point && point ≤ 16
  keepsPoint := true
  plusSign := true
  signedZero := true

/-- A value as a message names it. -/
def describe : Json → String
  | .null => "null"
  | .boolean b => if b then "boolean `true`" else "boolean `false`"
  | .number (.integer n) => "integer `" ++ String.ofList (Decimal.signed n) ++ "`"
  | .number (.double (.finite negative mantissa exponent)) =>
    "floating point `" ++ String.ofList (messageLayout.render negative mantissa exponent) ++ "`"
  | .number (.double (.infinite negative)) =>
    if negative then "floating point `-inf`" else "floating point `inf`"
  | .number (.double .nan) => "floating point `NaN`"
  | .string s => "string " ++ Text.quoted s
  | .array _ => "sequence"
  | .object _ => "map"

/-- What is said of a mismatch. -/
def Mismatch.message : Mismatch → String
  | .type found expected => "invalid type: " ++ found.describe ++ ", expected " ++ expected
  | .value found expected => "invalid value: " ++ found.describe ++ ", expected " ++ expected
  | .length count expected =>
    "invalid length " ++ Decimal.text count ++ ", expected " ++ expected
  | .missingField name => "missing field `" ++ name ++ "`"
  | .unknownVariant name known =>
    "unknown variant `" ++ name ++ "`, expected one of " ++
      String.intercalate ", " (known.map fun k => "`" ++ k ++ "`")
  | .date fault => fault.message

/-- The result of taking a value apart. -/
abbrev Read (α : Type) := Except Mismatch α

/-- A string. -/
def readText : Json → Read String
  | .string s => .ok s
  | value => .error (.type value "a string")

/-- A string, or null for none. -/
def readOptionalText : Json → Read (Option String)
  | .null => .ok none
  | value => value.readText.map some

/-- A value that has to be true or false. -/
def readBoolean : Json → Read Bool
  | .boolean b => .ok b
  | value => .error (.type value "a boolean")

/-- A number of things. -/
def readCount : Json → Read Nat
  | .number (.integer n) =>
    if 0 ≤ n then .ok n.toNat else .error (.value (.number (.integer n)) "usize")
  | value => .error (.type value "usize")

/-- A value that has to be the text of a date. -/
def readDate : Json → Read Date
  | .string s =>
    match Date.readLenient s with
    | .ok d => .ok d
    | .error fault => .error (.date fault)
  | value => .error (.type value "a formatted date string")

/-- A date, or null for none. -/
def readOptionalDate : Json → Read (Option Date)
  | .null => .ok none
  | value => value.readDate.map some

/-- The items of a list, each taken apart in turn. -/
def readEach {α : Type} (read : Json → Read α) : List Json → Read (List α)
  | [] => .ok []
  | item :: items => do
    let x ← read item
    let xs ← readEach read items
    return x :: xs

/-- A value that has to be an array, with its items read one by one. -/
def readList {α : Type} (read : Json → Read α) : Json → Read (List α)
  | .array items => readEach read items
  | value => .error (.type value "a sequence")

/-- A member that may be missing. -/
def field? {α : Type} (members : List (String × Json)) (name : String) (read : Json → Read α) :
    Read (Option α) :=
  match member? members name with
  | none => .ok none
  | some value => (read value).map some

/-- A field that has to be there. -/
def require {α : Type} (name : String) : Option α → Read α
  | some x => .ok x
  | none => .error (.missingField name)

/-- A record as messages name it. -/
structure RecordShape where
  name : String
  fields : Nat

/-- The record with its number of fields. -/
def RecordShape.counted (shape : RecordShape) : String :=
  "struct " ++ shape.name ++ " with " ++ Decimal.text shape.fields ++
    if shape.fields = 1 then " element" else " elements"

/-- The next item of an array that stands for a record, and the items behind it. -/
def RecordShape.next {α : Type} (shape : RecordShape) (items : List Json) (index : Nat)
    (read : Json → Read α) : Read α :=
  match items[index]? with
  | some item => read item
  | none => .error (.length index shape.counted)

/-- A record from an object by `ofObject`, or from an array with just as many items as the record
    has fields by `ofItems`. -/
def RecordShape.read {α : Type} (shape : RecordShape)
    (ofObject : List (String × Json) → Read α)
    (ofItems : List Json → Read α) : Json → Read α
  | .object members => ofObject members
  | .array items => do
    let x ← ofItems items
    if shape.fields < items.length then
      .error (.length items.length "fewer elements in array")
    else .ok x
  | value => .error (.type value ("struct " ++ shape.name))

end ExpiryGate.Json
