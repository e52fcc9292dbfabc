import ExpiryGate.Decimal.Digits
import ExpiryGate.Json.Basic
import ExpiryGate.Text.Hex

namespace ExpiryGate.Json

/-- The text without leading JSON white space. -/
def skipSpace (cs : List Char) : List Char :=
  cs.dropWhile fun c => c = ' ' || c = '\t' || c = '\n' || c = '\r'

/-- Where in a string the reader stands. -/
inductive StringState where
  /-- Between characters. -/
  | plain
  /-- Behind a backslash. -/
  | escape
  /-- Within a four-digit code with `left` digits to come; `lead` is a leading surrogate that the
      code has to complete. -/
  | code (lead : Option Nat) (left value : Nat)
  /-- Behind a leading surrogate, where a backslash has to follow. -/
  | leading (lead : Nat)
  /-- Behind a leading surrogate and a backslash, where a `u` has to follow. -/
  | leadingEscape (lead : Nat)

/-- The character of a one-letter escape. -/
def escaped? (c : Char) : Option Char :=
  if c = '"' ∨ c = '\\' ∨ c = '/' then some c
  else if c = 'b' then some '\x08'
  else if c = 'f' then some '\x0c'
  else if c = 'n' then some '\n'
  else if c = 'r' then some '\r'
  else if c = 't' then some '\t'
  else none

/-- The character of a completed surrogate pair. -/
def surrogatePair? (lead trail : Nat) : Option Char :=
  if 0xDC00 ≤ trail ∧ trail ≤ 0xDFFF then
    Text.scalar? (0x10000 + (lead - 0xD800) * 0x400 + (trail - 0xDC00))
  else none

/-- The rest of a string up to its closing quote, behind the characters `done` in reverse. -/
def readString (done : List Char) : StringState → List Char → Option (String × List Char)
  | _, [] => none
  | .plain, c :: rest =>
    if c = '"' then some (String.ofList done.reverse, rest)
    else if c = '\\' then readString done .escape rest
    else if c.toNat < 0x20 then none
    else readString (c :: done) .plain rest
  | .escape, c :: rest =>
    if c = 'u' then readString done (.code none 4 0) rest
    else
      match escaped? c with
      | some d => readString (d :: done) .plain rest
      | none => none
  | .code lead left value, c :: rest =>
    match Text.hexValue? c with
    | none => none
    | some digit =>
      let value := 16 * value + digit
      if 1 < left then readString done (.code lead (left - 1) value) rest
      else
        match lead with
        | some lead =>
          match surrogatePair? lead value with
          | some d => readString (d :: done) .plain rest
          | none => none
        | none =>
          if 0xD800 ≤ value ∧ value ≤ 0xDBFF then readString done (.leading value) rest
          else
            match Text.scalar? value with
            | some d => readString (d :: done) .plain rest
            | none => none
  | .leading lead, c :: rest =>
    if c = '\\' then readString done (.leadingEscape lead) rest else none
  | .leadingEscape lead, c :: rest =>
    if c = 'u' then readString done (.code (some lead) 4 0) rest else none

/-- A run of digits and what follows it. -/
def takeDigits (cs : List Char) : List Char × List Char :=
  (cs.takeWhile Char.isDigit, cs.dropWhile Char.isDigit)

/-- The digits behind a decimal point; none if there is no point. -/
def readFraction (cs : List Char) : Option (List Char × List Char) :=
  match cs with
  | '.' :: rest =>
    match takeDigits rest with
    | ([], _) => none
    | found => some found
  | _ => some ([], cs)

/-- An exponent part, if there is one. -/
def readExponent (cs : List Char) : Option (Option Int × List Char) :=
  match cs with
  | c :: rest =>
    if c = 'e' ∨ c = 'E' then
      let (negative, rest) := match rest with
        | '-' :: rest => (true, rest)
        | '+' :: rest => (false, rest)
        | _ => (false, rest)
      match takeDigits rest with
      | ([], _) => none
      | (run, rest) =>
        let n : Int := Decimal.value run
        some (some (if negative then -n else n), rest)
    else some (none, cs)
  | [] => some (none, cs)

/-- A number by its parts: an integer that fits 64 bits stays exact. `-0` is a double, and what
    exceeds the doubles is no number. -/
def Number.ofParts? (negative : Bool) (whole fraction : List Char) (exponent : Option Int) :
    Option Number :=
  let n : Int := if negative then -(Decimal.value whole : Int) else Decimal.value whole
  if fraction = [] ∧ exponent = none ∧ fits 64 n ∧ ¬ (negative ∧ n = 0) then
    some (.integer n)
  else
    let shift := exponent.getD 0 - fraction.length
    match Binary64.ofDecimal negative (Decimal.value (whole ++ fraction)) shift with
    | .finite negative mantissa exponent => some (.double (.finite negative mantissa exponent))
    | _ => none

/-- A number. Leading zeros are not allowed. -/
def readNumber (cs : List Char) : Option (Number × List Char) := do
  let (negative, cs) := match cs with
    | '-' :: rest => (true, rest)
    | _ => (false, cs)
  let (whole, rest) := takeDigits cs
  if whole = [] ∨ (whole.head? = some '0' ∧ 1 < whole.length) then none
  else
    let (fraction, rest) ← readFraction rest
    let (exponent, rest) ← readExponent rest
    let n ← Number.ofParts? negative whole fraction exponent
    some (n, rest)

/-- The text behind a fixed word. -/
def dropWord (word : String) (cs : List Char) : Option (List Char) :=
  if word.toList.isPrefixOf cs then some (cs.drop word.length) else none

/-- A key: white space, a string, white space and a colon. -/
def readKey (cs : List Char) : Option (String × List Char) :=
  match skipSpace cs with
  | '"' :: rest => do
    let (key, rest) ← readString [] .plain rest
    match skipSpace rest with
    | ':' :: rest => some (key, rest)
    | _ => none
  | _ => none

mutual

/-- A value with white space before it. The first argument bounds the nested calls. -/
def readValue : Nat → List Char → Option (Json × List Char)
  | 0, _ => none
  | fuel + 1, cs =>
    match skipSpace cs with
    | [] => none
    | c :: rest =>
      if c = '"' then do
        let (s, rest) ← readString [] .plain rest
        some (.string s, rest)
      else if c = '[' then
        match skipSpace rest with
        | ']' :: rest => some (.array [], rest)
        | _ => readItems fuel [] rest
      else if c = '\x7b' then
        match skipSpace rest with
        | '\x7d' :: rest => some (.object [], rest)
        | _ => readMembers fuel [] rest
      else if c = 'n' then (dropWord "ull" rest).map fun rest => (.null, rest)
      else if c = 't' then (dropWord "rue" rest).map fun rest => (.boolean true, rest)
      else if c = 'f' then (dropWord "alse" rest).map fun rest => (.boolean false, rest)
      else (readNumber (c :: rest)).map fun (n, rest) => (.number n, rest)

/-- The items of an array up to its closing bracket, behind the items `done` in reverse. -/
def readItems : Nat → List Json → List Char → Option (Json × List Char)
  | 0, _, _ => none
  | fuel + 1, done, cs =>
    match readValue fuel cs with
    | none => none
    | some (item, rest) =>
      match skipSpace rest with
      | ',' :: rest => readItems fuel (item :: done) rest
      | ']' :: rest => some (.array (item :: done).reverse, rest)
      | _ => none

/-- The members of an object up to its closing brace, behind the members `done` in reverse. -/
def readMembers : Nat → List (String × Json) → List Char → Option (Json × List Char)
  | 0, _, _ => none
  | fuel + 1, done, cs =>
    match readKey cs with
    | none => none
    | some (key, rest) =>
      match readValue fuel rest with
      | none => none
      | some (value, rest) =>
        match skipSpace rest with
        | ',' :: rest => readMembers fuel ((key, value) :: done) rest
        | '\x7d' :: rest => some (ofMembers ((key, value) :: done).reverse, rest)
        | _ => none

end

/-- Reads a JSON text as a whole. Objects come out sorted by key, and the last member wins where a
    key repeats. Each nested call but every second one consumes a character, so twice the length is
    fuel enough. -/
def read? (text : String) : Option Json :=
  match readValue (2 * text.length + 2) text.toList with
  | some (value, rest) => if skipSpace rest = [] then some value else none
  | none => none

end ExpiryGate.Json
