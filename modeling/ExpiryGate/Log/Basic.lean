import ExpiryGate.Text.Hex

namespace ExpiryGate.Log

/-- How important an event is. -/
inductive Level where
  | error
  | warn
  | info
  | debug
  | trace
deriving DecidableEq, Repr

namespace Level

/-- All levels, the most important first. -/
def all : List Level := [error, warn, info, debug, trace]

/-- The name at the start of a line. -/
def name : Level → String
  | error => "ERROR"
  | warn => "WARN"
  | info => "INFO"
  | debug => "DEBUG"
  | trace => "TRACE"

/-- A greater number means a less important level. -/
def rank : Level → Nat
  | error => 1
  | warn => 2
  | info => 3
  | debug => 4
  | trace => 5

end Level

/-- Something that is worth telling. -/
structure Event where
  level : Level
  target : String
  message : String
  fields : List (String × String)
deriving DecidableEq, Repr

/-- Controls that a terminal could act on are written as escapes. -/
def escapeChar (c : Char) : List Char :=
  if c = '\x1b' ∨ c = '\x07' ∨ c = '\x08' ∨ c = '\x0c' ∨ c = '\x7f' then
    '\\' :: 'x' :: Text.hexLower 2 c.toNat
  else if 0x80 ≤ c.toNat ∧ c.toNat ≤ 0x9f then
    '\\' :: 'u' :: '\x7b' :: (Text.hexLower 2 c.toNat ++ ['\x7d'])
  else [c]

/-- A message as it is shown. -/
def escapeMessage (message : String) : String :=
  String.ofList (message.toList.flatMap escapeChar)

/-- A name with its value, behind a space. -/
def fieldText (field : String × String) : String :=
  " " ++ field.1 ++ "=" ++ field.2

/-- The line for an event, without the time. -/
def Event.line (event : Event) (showTarget : Bool) : String :=
  event.level.name ++ " " ++ (if showTarget then event.target ++ ": " else "") ++
    escapeMessage event.message ++ String.join (event.fields.map fieldText)

end ExpiryGate.Log
