import ExpiryGate.Text.Hex

namespace ExpiryGate.Toml

/-- The two characters of white space within a line. -/
def isBlank (c : Char) : Bool :=
  c = ' ' || c = '\t'

/-- Tabs and all characters that are no controls may stand in strings and comments. -/
def isPlain (c : Char) : Bool :=
  c = '\t' || (0x20 ≤ c.toNat && c ≠ '\x7f')

/-- The text begins with a line feed. -/
def startsLine : List Char → Bool
  | '\n' :: _ => true
  | _ => false

/-- What a letter behind a backslash stands for. -/
inductive Escape where
  | char (c : Char)
  /-- A code point in `width` hexadecimal digits follows. -/
  | code (width : Nat)

/-- What a character behind a backslash stands for in strings on one line. -/
def escape? (c : Char) : Option Escape :=
  if c = '"' ∨ c = '\\' then some (.char c)
  else if c = 'b' then some (.char '\x08')
  else if c = 't' then some (.char '\t')
  else if c = 'n' then some (.char '\n')
  else if c = 'f' then some (.char '\x0c')
  else if c = 'r' then some (.char '\r')
  else if c = 'e' then some (.char '\x1b')
  else if c = 'x' then some (.code 2)
  else if c = 'u' then some (.code 4)
  else if c = 'U' then some (.code 8)
  else none

/-- Where in a string with escapes the reader stands. -/
inductive BasicState where
  | plain
  /-- Behind a backslash. -/
  | escape
  /-- Within a code point with `left` digits to come. -/
  | code (left value : Nat)

/-- A string between double quotes, on one line. -/
def readBasic (done : List Char) : BasicState → List Char → Option (String × List Char)
  | _, [] => none
  | .plain, c :: rest =>
    if c = '"' then some (String.ofList done.reverse, rest)
    else if c = '\\' then readBasic done .escape rest
    else if isPlain c then readBasic (c :: done) .plain rest
    else none
  | .escape, c :: rest =>
    match escape? c with
    | some (.char d) => readBasic (d :: done) .plain rest
    | some (.code width) => readBasic done (.code width 0) rest
    | none => none
  | .code left value, c :: rest =>
    match Text.hexValue? c with
    | none => none
    | some digit =>
      let value := 16 * value + digit
      if 1 < left then readBasic done (.code (left - 1) value) rest
      else
        match Text.scalar? value with
        | some d => readBasic (d :: done) .plain rest
        | none => none

/-- The end of a string between triple quotes: up to two quotes may stand before the closing
    ones, which the reader has just passed. -/
def closeQuotes (quote : Char) (done rest : List Char) : String × List Char :=
  let extra := (rest.take 2).takeWhile (· = quote)
  (String.ofList (done.reverse ++ extra), rest.drop extra.length)

/-- Where in a string over several lines the reader stands. -/
inductive BlockState where
  /-- Between characters. Behind a backslash at the end of a line, blanks and line ends are
      trimmed. -/
  | plain (trim : Bool)
  /-- Behind a backslash. -/
  | escape
  /-- Behind a backslash and blanks, where the line has to end. -/
  | gap
  /-- Within a code point with `left` digits to come. -/
  | code (left value : Nat)

/-- The first of these characters can be left out behind a backslash at the end of a line. -/
def isTrimmed (c : Char) (rest : List Char) : Bool :=
  isBlank c || c = '\n' || (c = '\r' && startsLine rest)

/-- A string between triple double quotes. A carriage return has to stand before a line feed. -/
def readBlock (done : List Char) : BlockState → List Char → Option (String × List Char)
  | _, [] => none
  | .plain trim, c :: rest =>
    if trim && isTrimmed c rest then readBlock done (.plain true) rest
    else if c = '"' then
      match rest with
      | '"' :: '"' :: rest => some (closeQuotes '"' done rest)
      | _ => readBlock ('"' :: done) (.plain false) rest
    else if c = '\\' then readBlock done .escape rest
    else if isPlain c || c = '\n' || (c = '\r' && startsLine rest) then
      readBlock (c :: done) (.plain false) rest
    else none
  | .escape, c :: rest =>
    match escape? c with
    | some (.char d) => readBlock (d :: done) (.plain false) rest
    | some (.code width) => readBlock done (.code width 0) rest
    | none =>
      if c = '\n' then readBlock done (.plain true) rest
      else if isTrimmed c rest then readBlock done .gap rest
      else none
  | .gap, c :: rest =>
    if c = '\n' then readBlock done (.plain true) rest
    else if isTrimmed c rest then readBlock done .gap rest
    else none
  | .code left value, c :: rest =>
    match Text.hexValue? c with
    | none => none
    | some digit =>
      let value := 16 * value + digit
      if 1 < left then readBlock done (.code (left - 1) value) rest
      else
        match Text.scalar? value with
        | some d => readBlock (d :: done) (.plain false) rest
        | none => none

/-- A string between single quotes, on one line. -/
def readLiteral (done : List Char) : List Char → Option (String × List Char)
  | [] => none
  | c :: rest =>
    if c = '\'' then some (String.ofList done.reverse, rest)
    else if isPlain c then readLiteral (c :: done) rest
    else none

/-- A string between triple single quotes. -/
def readLiteralBlock (done : List Char) : List Char → Option (String × List Char)
  | [] => none
  | c :: rest =>
    if c = '\'' then
      match rest with
      | '\'' :: '\'' :: rest => some (closeQuotes '\'' done rest)
      | _ => readLiteralBlock ('\'' :: done) rest
    else if isPlain c || c = '\n' || (c = '\r' && startsLine rest) then
      readLiteralBlock (c :: done) rest
    else none

/-- A line end right behind opening triple quotes does not count. -/
def dropFirstLineEnd : List Char → List Char
  | '\n' :: rest => rest
  | '\r' :: '\n' :: rest => rest
  | cs => cs

/-- A string in any of the four forms, from its first quote on. -/
def readQuoted : List Char → Option (String × List Char)
  | '"' :: '"' :: '"' :: rest => readBlock [] (.plain false) (dropFirstLineEnd rest)
  | '"' :: rest => readBasic [] .plain rest
  | '\'' :: '\'' :: '\'' :: rest => readLiteralBlock [] (dropFirstLineEnd rest)
  | '\'' :: rest => readLiteral [] rest
  | _ => none

end ExpiryGate.Toml
