namespace ExpiryGate.Text

/-- The part of a control sequence that comes next. -/
inductive ControlState where
  /-- Outside of all sequences. -/
  | outside
  /-- Behind an escape character. -/
  | escape
  /-- Behind an escape character and intermediate characters. -/
  | intermediate
  /-- In a sequence behind `ESC [`, which ends with a letter or the like. -/
  | sequence
  /-- In the head of a device control behind `ESC P`, before its parameters. -/
  | deviceHead
  | deviceParameters
  | deviceIntermediate
  /-- In a text for the device or a private text, which only a string terminator ends. -/
  | text
  /-- In a system command behind `ESC ]`, which a bell ends. -/
  | command
deriving DecidableEq, Repr

/-- Blanks and line ends that are shown even within the sequences that hold no text. -/
def isShownControl (c : Char) : Bool :=
  c = '\t' || c = '\n' || c = '\x0c' || c = '\r'

/-- The character is encoded with the byte that terminates a string. -/
def holdsTerminator (c : Char) : Bool :=
  (String.utf8EncodeChar c).contains 0x9c

namespace ControlState

/-- The state behind an escape character and `c`. -/
def behindEscape (c : Char) : ControlState :=
  if c = '[' then sequence
  else if c = ']' then command
  else if c = 'P' then deviceHead
  else if c = 'X' ∨ c = '^' ∨ c = '_' then text
  else if ' ' ≤ c ∧ c ≤ '/' then intermediate
  else if '0' ≤ c ∧ c ≤ '~' then outside
  else escape

/-- The state in the head of a device control behind `c`. A parameter mark can only come first, and
    no parameters come behind intermediate characters. -/
def inDevice (state : ControlState) (c : Char) : ControlState :=
  if '@' ≤ c ∧ c ≤ '~' then text
  else if ' ' ≤ c ∧ c ≤ '/' then deviceIntermediate
  else if '0' ≤ c ∧ c ≤ '?' then
    if state = deviceIntermediate then text
    else if state = deviceParameters ∧ '<' ≤ c then text
    else deviceParameters
  else state

/-- The state behind `c`, which is not shown. Two controls cancel any sequence. -/
def next (state : ControlState) (c : Char) : ControlState :=
  if c = '\x1b' then escape
  else if c = '\x18' ∨ c = '\x1a' then outside
  else
    match state with
    | outside => outside
    | escape => behindEscape c
    | intermediate => if '0' ≤ c ∧ c ≤ '~' then outside else intermediate
    | sequence => if '@' ≤ c ∧ c ≤ '~' then outside else sequence
    | deviceHead | deviceParameters | deviceIntermediate => state.inDevice c
    | text => if holdsTerminator c then outside else text
    | command => if c = '\x07' then outside else command

/-- Whether `c` is shown. Outside of all sequences that is so unless it is a control. -/
def shows (state : ControlState) (c : Char) : Bool :=
  match state with
  | outside => isShownControl c || (' ' ≤ c && c ≠ '\x7f')
  | escape | intermediate | sequence => isShownControl c
  | _ => false

/-- What is shown of a text. Where something is shown, the sequence before it is over. -/
def visible : ControlState → List Char → List Char
  | _, [] => []
  | state, c :: rest =>
    if state.shows c then c :: outside.visible rest else (state.next c).visible rest

end ControlState

/-- The text without control sequences, and without controls other than blanks and line ends. A
    sequence starts with an escape character, and what kind of sequence it is decides where it ends.
    -/
def withoutControls (s : String) : String :=
  String.ofList (ControlState.outside.visible s.toList)

end ExpiryGate.Text
