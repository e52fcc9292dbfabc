import ExpiryGate.Decimal.Shortest
import ExpiryGate.Text.Hex
import ExpiryGate.Toml.Value

namespace ExpiryGate.Toml

/-- A control character for which only an escape can stand: all but tab and line feed. -/
def isControl (c : Char) : Bool :=
  (c.toNat < 0x20 && c ≠ '\t' && c ≠ '\n') || c = '\x7f'

/-- The length of the longest run of `c`. -/
def longestRun (c : Char) (cs : List Char) : Nat :=
  let step := fun (best, current) d => if d = c then (max best (current + 1), current + 1)
    else (best, 0)
  (cs.foldl step (0, 0)).1

/-- A character in an escaped form, apart from quotes and line feeds. -/
def escapeChar (c : Char) : List Char :=
  if c = '\x08' then ['\\', 'b']
  else if c = '\t' then ['\\', 't']
  else if c = '\x0c' then ['\\', 'f']
  else if c = '\r' then ['\\', 'r']
  else if c = '\\' then ['\\', '\\']
  else if isControl c then '\\' :: 'u' :: Text.hexUpper 4 c.toNat
  else [c]

/-- A character between double quotes on one line. -/
def escapeBasic (c : Char) : List Char :=
  if c = '"' then ['\\', '"'] else if c = '\n' then ['\\', 'n'] else escapeChar c

/-- The text between triple double quotes, behind `quotes` quotes in a row. Every third quote of a
    run is escaped, so that the run does not close the string. -/
def escapeBlock (quotes : Nat) : List Char → List Char
  | [] => []
  | c :: rest =>
    if c = '"' then
      if quotes = 2 then '\\' :: '"' :: escapeBlock 0 rest
      else '"' :: escapeBlock (quotes + 1) rest
    else if c = '\n' then '\n' :: escapeBlock 0 rest
    else escapeChar c ++ escapeBlock 0 rest

/-- The characters of numbers, names and paths, which need no look at the forms. -/
def isSimpleChar (c : Char) : Bool :=
  c.isAlphanum || c = '_' || c = '-' || c = '.' || c = '/' || c = ' ' || c = ':'

/-- The forms of a string. -/
inductive StringForm where
  | basic
  | literal
  | basicBlock
  | literalBlock
deriving DecidableEq, Repr

/-- The form that a string takes. -/
def StringForm.of (cs : List Char) : StringForm :=
  let controls := cs.any isControl
  let lines := cs.contains '\n'
  let doubles := longestRun '"' cs
  let singles := longestRun '\'' cs
  if cs.all isSimpleChar then .basic
  else if !controls && !cs.contains '\\' && doubles = 0 && !lines then .basic
  else if !controls && singles = 0 && !lines then .literal
  else if !controls && !cs.contains '\\' && doubles ≤ 2 then .basicBlock
  else if !controls && singles ≤ 2 then .literalBlock
  else if lines then .basicBlock
  else .basic

/-- A string in the given form. A string with line feeds starts on a line of its own. -/
def StringForm.write (form : StringForm) (cs : List Char) : List Char :=
  let first := if cs.contains '\n' then ['\n'] else []
  match form with
  | .basic => '"' :: (cs.flatMap escapeBasic ++ ['"'])
  | .literal => '\'' :: (cs ++ ['\''])
  | .basicBlock => "\"\"\"".toList ++ first ++ escapeBlock 0 cs ++ "\"\"\"".toList
  | .literalBlock => "'''".toList ++ first ++ cs ++ "'''".toList

/-- A string as a TOML value, in the first of its forms that can hold it without escapes, where
    forms on one line come first. -/
def quoteString (s : String) : List Char :=
  (StringForm.of s.toList).write s.toList

/-- A key: bare if possible, else between quotes that need no escapes if possible. -/
def quoteKey (key : String) : List Char :=
  let cs := key.toList
  let plain := !cs.any isControl && !cs.contains '\n'
  if cs ≠ [] ∧ cs.all (fun c => c.isAlphanum || c = '_' || c = '-') then cs
  else if plain && !cs.contains '\\' && !cs.contains '"' then StringForm.basic.write cs
  else if plain && !cs.contains '\'' then StringForm.literal.write cs
  else StringForm.basic.write cs

/-- Floats are written without an exponent, and whole ones keep their point. -/
def floatLayout : Decimal.Layout where
  tie := .upper
  positional _ := true
  keepsPoint := true
  plusSign := false
  signedZero := true

/-- A double as a TOML float, with the words for those that are not finite. -/
def floatChars : Binary64 → List Char
  | .finite negative mantissa exponent => floatLayout.render negative mantissa exponent
  | .infinite negative => if negative then "-inf".toList else "inf".toList
  | .nan => "nan".toList

/-- A scalar in its standard form. -/
def Scalar.chars : Scalar → List Char
  | .string s => quoteString s
  | .integer n => Decimal.signed n
  | .float x => floatChars x
  | .boolean b => if b then "true".toList else "false".toList
  | .datetime d => d.chars

mutual

/-- A value on one line, apart from line feeds within its strings. -/
def Value.chars : Value → List Char
  | .scalar s => s.chars
  | .array items => '[' :: (List.intercalate [',', ' '] (itemChars items) ++ [']'])
  | .table [] => ['\x7b', '\x7d']
  | .table entries =>
    '\x7b' :: ' ' :: (List.intercalate [',', ' '] (entryListChars entries) ++ [' ', '\x7d'])

/-- The texts of the items, in their order. -/
def itemChars : List Value → List (List Char)
  | [] => []
  | item :: items => item.chars :: itemChars items

/-- The texts of the entries, in their order. -/
def entryListChars : List (String × Value) → List (List Char)
  | [] => []
  | e :: entries => entryChars e :: entryListChars entries

/-- An entry of a table: the key, an equals sign and the value. -/
def entryChars : String × Value → List Char
  | (key, value) => quoteKey key ++ ' ' :: '=' :: ' ' :: value.chars

end

/-- The text that stands for a value where a text is asked for. A string stands for itself. -/
def Value.plainText : Value → String
  | .scalar (.string s) => s
  | value => String.ofList value.chars

end ExpiryGate.Toml
