import ExpiryGate.Decimal.Shortest
import ExpiryGate.Json.Basic
import ExpiryGate.Text.Hex
import ExpiryGate.Text.Utf16

namespace ExpiryGate.Json

/-- Quote, backslash and control characters are escaped, and nothing else. -/
def escape (c : Char) : List Char :=
  if c = '"' then ['\\', '"']
  else if c = '\\' then ['\\', '\\']
  else if c = '\x08' then ['\\', 'b']
  else if c = '\t' then ['\\', 't']
  else if c = '\n' then ['\\', 'n']
  else if c = '\x0c' then ['\\', 'f']
  else if c = '\r' then ['\\', 'r']
  else if c.toNat < 0x20 then '\\' :: 'u' :: Text.hexLower 4 c.toNat
  else [c]

/-- A text as a JSON string. -/
def quote (s : String) : List Char :=
  '"' :: (s.toList.flatMap escape ++ ['"'])

/-- Magnitudes below `10 ^ 21` and from `10 ^ -6` on are written without an exponent, and whole
    numbers and zero without point and sign. -/
def numberLayout : Decimal.Layout where
  tie := .even
  positional point := -6 < point && point ≤ 21
  keepsPoint := false
  plusSign := true
  signedZero := false

/-- A double with the fewest digits that read back as it. Values that are not finite are written as
    null. -/
def ofDouble : Binary64 → List Char
  | .finite negative mantissa exponent => numberLayout.render negative mantissa exponent
  | _ => "null".toList

/-- Every integer is written as the double nearest to it. -/
def Number.canonical : Number → List Char
  | .integer n => ofDouble (.ofInt n)
  | .double x => ofDouble x

/-- Members, each with its text, by the UTF-16 code units of their keys. -/
def sortMembers (members : List (String × List Char)) : List (String × List Char) :=
  members.mergeSort fun a b => Text.utf16Le a.1 b.1

/-- Pieces with a comma between each two. -/
def commaSeparated (pieces : List (List Char)) : List Char :=
  List.intercalate [','] pieces

mutual

/-- The canonical text of a value: no white space, members in the order of the UTF-16 code units of
    their keys, and the shortest escape for each character that needs one. -/
def canonical : Json → List Char
  | .null => "null".toList
  | .boolean b => if b then "true".toList else "false".toList
  | .number n => n.canonical
  | .string s => quote s
  | .array items => '[' :: (commaSeparated (canonicalItems items) ++ [']'])
  | .object members =>
    '\x7b' :: (commaSeparated ((sortMembers (canonicalMembers members)).map Prod.snd) ++ ['\x7d'])

/-- The canonical texts of the items, in their order. -/
def canonicalItems : List Json → List (List Char)
  | [] => []
  | item :: items => item.canonical :: canonicalItems items

/-- The members with their texts, in the order in which the value has them. -/
def canonicalMembers : List (String × Json) → List (String × List Char)
  | [] => []
  | m :: members => canonicalMember m :: canonicalMembers members

/-- A member with its text: the quoted key, a colon and the value. -/
def canonicalMember : String × Json → String × List Char
  | (key, value) => (key, quote key ++ ':' :: value.canonical)

end

/-- The canonical text of a value. -/
def text (value : Json) : String :=
  String.ofList value.canonical

end ExpiryGate.Json
