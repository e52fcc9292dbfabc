import ExpiryGate.Toml.Number
import ExpiryGate.Toml.Quoted
import ExpiryGate.Toml.Tree

namespace ExpiryGate.Toml

/-- Arrays and inline tables may be nested this deep. -/
def maxNesting : Nat := 80

/-- A key may have this many parts. -/
def maxKeyParts : Nat := 80

/-- The text without leading spaces and tabs. -/
def skipBlanks (cs : List Char) : List Char :=
  cs.dropWhile isBlank

/-- The text from the end of a comment on; the comment may hold plain characters only. -/
def dropComment (cs : List Char) : Option (List Char) :=
  match cs.dropWhile isPlain with
  | [] => some []
  | '\n' :: rest => some ('\n' :: rest)
  | '\r' :: '\n' :: rest => some ('\n' :: rest)
  | _ => none

/-- What follows the end of the line, before which blanks and a comment may stand. -/
def endLine (cs : List Char) : Option (List Char) :=
  match skipBlanks cs with
  | [] => some []
  | '\n' :: rest => some rest
  | '\r' :: '\n' :: rest => some rest
  | '#' :: rest => (dropComment rest).map List.tail
  | _ => none

/-- The text without leading blanks, line ends and comments, as between the items of an array. -/
def skipFiller (inComment : Bool) : List Char → Option (List Char)
  | [] => some []
  | c :: rest =>
    if c = '\n' then skipFiller false rest
    else if c = '\r' then if startsLine rest then skipFiller false rest else none
    else if inComment then if isPlain c then skipFiller true rest else none
    else if isBlank c then skipFiller false rest
    else if c = '#' then skipFiller true rest
    else some (c :: rest)

/-- ASCII letters, digits, underscores and dashes make keys without quotes. -/
def isBareKeyChar (c : Char) : Bool :=
  c.isAlphanum || c = '_' || c = '-'

/-- One part of a key: bare, or a string on one line. -/
def readKeyPart (cs : List Char) : Option (KeyPart × List Char) :=
  match cs with
  | [] => none
  | c :: rest =>
    if c = '"' then (readBasic [] .plain rest).map fun (name, rest) => (⟨name, cs⟩, rest)
    else if c = '\'' then (readLiteral [] rest).map fun (name, rest) => (⟨name, cs⟩, rest)
    else
      match cs.takeWhile isBareKeyChar with
      | [] => none
      | name => some (⟨String.ofList name, cs⟩, cs.drop name.length)

/-- A key of at most as many parts as the first argument says, and what follows it. Blanks may
    stand around each part. -/
def readKey : Nat → List Char → Option (Key × List Char)
  | 0, _ => none
  | limit + 1, cs => do
    let (part, rest) ← readKeyPart (skipBlanks cs)
    match skipBlanks rest with
    | '.' :: rest => do
      let (key, rest) ← readKey limit rest
      some ({ key with parents := part :: key.parents }, rest)
    | rest => some (⟨[], part⟩, rest)

/-- The characters of numbers, booleans, dates and times are all but blanks, line ends and the
    signs that give a document its structure. -/
def isWordChar (c : Char) : Bool :=
  !(isBlank c || c = '\n' || c = '\r' || c = '#' || c = '=' || c = ',' || c = '[' || c = ']' ||
    c = '\x7b' || c = '\x7d')

/-- The node of a number literal. -/
def Literal.toNode (source : List Char) : Literal → Node
  | .integer n => .leaf source (.integer n)
  | .float x => .leaf source (.float x)
  | .misfit => .misfit source

/-- The node of a word. -/
def readWord? (source word : List Char) : Option Node :=
  if word = "true".toList then some (.leaf source (.boolean true))
  else if word = "false".toList then some (.leaf source (.boolean false))
  else
    match Datetime.read? word with
    | some d => some (.leaf source (.datetime d))
    | none => (readNumber? word).map (Literal.toNode source)

/-- The word at the start of the text. A date goes on behind a single space if a digit follows. -/
def takeWord (cs : List Char) : List Char × List Char :=
  let word := cs.takeWhile isWordChar
  let rest := cs.drop word.length
  match takeDate word, rest with
  | some (_, []), ' ' :: c :: more =>
    if c.isDigit then
      let time := (c :: more).takeWhile isWordChar
      (word ++ ' ' :: time, (c :: more).drop time.length)
    else (word, rest)
  | _, _ => (word, rest)

/-- A string or a word at the start of the text. -/
def readScalar (cs : List Char) : Option (Node × List Char) :=
  match cs with
  | [] => none
  | c :: _ =>
    if c = '"' ∨ c = '\'' then (readQuoted cs).map fun (s, rest) => (.leaf cs (.string s), rest)
    else
      let (word, rest) := takeWord cs
      (readWord? cs word).map fun node => (node, rest)

/-- A key and an equals sign. The first argument skips what may stand before and behind the
    sign. -/
def readKeyEquals (skip : List Char → Option (List Char)) (cs : List Char) :
    Option (Key × List Char) := do
  let (key, rest) ← readKey maxKeyParts cs
  match ← skip rest with
  | '=' :: rest => some (key, ← skip rest)
  | _ => none

mutual

/-- A value at the start of the text. The first argument bounds the nested calls and the second
    one is the number of levels that may still be opened. -/
def readValue : Nat → Nat → List Char → Option (Node × List Char)
  | 0, _, _ => none
  | fuel + 1, levels, cs =>
    match cs with
    | [] => none
    | c :: rest =>
      if c = '[' then
        match levels with
        | 0 => none
        | levels + 1 => readItems fuel levels cs [] rest
      else if c = '\x7b' then
        match levels with
        | 0 => none
        | levels + 1 => readEntries fuel levels cs [] rest
      else readScalar cs

/-- The items of an array up to its closing bracket, behind the items `done` in reverse. The
    array starts at `source`. A comma may follow the last item. -/
def readItems : Nat → Nat → List Char → List Node → List Char → Option (Node × List Char)
  | 0, _, _, _, _ => none
  | fuel + 1, levels, source, done, cs =>
    match skipFiller false cs with
    | none => none
    | some (']' :: rest) => some (.array source .inline done.reverse, rest)
    | some cs =>
      match readValue fuel levels cs with
      | none => none
      | some (item, rest) =>
        match skipFiller false rest with
        | some (',' :: rest) => readItems fuel levels source (item :: done) rest
        | some (']' :: rest) => some (.array source .inline (item :: done).reverse, rest)
        | _ => none

/-- The entries of an inline table up to its closing brace, added to `entries`. Lines may be broken
    around the equals signs. -/
def readEntries : Nat → Nat → List Char → Entries → List Char → Option (Node × List Char)
  | 0, _, _, _, _ => none
  | fuel + 1, levels, source, entries, cs =>
    match skipFiller false cs with
    | none => none
    | some ('\x7d' :: rest) => some (.table source .inline entries, rest)
    | some cs =>
      match readKeyEquals (skipFiller false) cs with
      | none => none
      | some (key, rest) =>
        match readValue fuel levels rest with
        | none => none
        | some (value, rest) =>
          match assign entries ⟨key, value⟩, skipFiller false rest with
          | some entries, some (',' :: rest) => readEntries fuel levels source entries rest
          | some entries, some ('\x7d' :: rest) => some (.table source .inline entries, rest)
          | _, _ => none

end

/-- A line that says something. -/
inductive Line where
  | header (source : List Char) (inArray : Bool) (key : Key)
  | assignment (a : Assignment)

/-- A header behind its first bracket. The text from that bracket on is `source`. -/
def readHeader (source rest : List Char) : Option (Line × List Char) :=
  match rest with
  | '[' :: rest =>
    match readKey maxKeyParts rest with
    | some (key, ']' :: ']' :: rest) => some (.header source true key, rest)
    | _ => none
  | _ =>
    match readKey maxKeyParts rest with
    | some (key, ']' :: rest) => some (.header source false key, rest)
    | _ => none

/-- A key with its value. Each nested call of the value but every second one consumes a
    character. -/
def readAssignment (cs : List Char) : Option (Line × List Char) :=
  match readKeyEquals (fun cs => some (skipBlanks cs)) cs with
  | none => none
  | some (key, rest) =>
    (readValue (2 * rest.length + 2) maxNesting rest).map fun (value, rest) =>
      (.assignment ⟨key, value⟩, rest)

/-- The lines of a document that say something. The first argument bounds the number of lines,
    and `done` holds the lines before in reverse. -/
def readLines : Nat → List Line → List Char → Option (List Line)
  | 0, _, _ => none
  | fuel + 1, done, cs =>
    match skipBlanks cs with
    | [] => some done.reverse
    | c :: rest =>
      if c = '\n' ∨ c = '\r' ∨ c = '#' then
        match endLine (c :: rest) with
        | some rest => readLines fuel done rest
        | none => none
      else
        match if c = '[' then readHeader (c :: rest) rest else readAssignment (c :: rest) with
        | none => none
        | some (line, rest) =>
          match endLine rest with
          | some rest => readLines fuel (line :: done) rest
          | none => none

/-- The assignments before the first header, and the sections. -/
def groupLines : List Line → List Assignment × List Section
  | [] => ([], [])
  | .assignment a :: lines =>
    let (top, sections) := groupLines lines
    (a :: top, sections)
  | .header source inArray key :: lines =>
    let (top, sections) := groupLines lines
    ([], ⟨source, inArray, key, top⟩ :: sections)

/-- The entries that the lines of a document add up to. -/
def assemble (lines : List Line) : Option Entries := do
  let (top, sections) := groupLines lines
  let root ← assignAll [] top
  sections.foldlM addSection root

/-- The entries of a document, which may begin with a byte order mark, or nothing if the document is
    not well formed. Every line but the last ends with a line feed, so the length of the text bounds
    the number of lines. -/
def readDocument (text : List Char) : Option Entries :=
  let body := match text with
    | '\uFEFF' :: rest => rest
    | _ => text
  (readLines (body.length + 1) [] body).bind assemble

end ExpiryGate.Toml
