import ExpiryGate.Decimal.Digits
import ExpiryGate.Log.Basic
import ExpiryGate.Log.Pattern
import ExpiryGate.Text.Blank
import ExpiryGate.Text.Bytes

namespace ExpiryGate.Log

/-- Which levels are shown. -/
inductive Threshold where
  | nothing
  /-- This level and all more important ones. -/
  | upTo (level : Level)
deriving DecidableEq, Repr

namespace Threshold

/-- Events up to the threshold are shown. -/
def shows : Threshold → Level → Bool
  | nothing, _ => false
  | upTo limit, level => level.rank ≤ limit.rank

/-- The threshold with this number, from 0 for nothing to 5 for everything. -/
def ofNumber? (n : Nat) : Option Threshold :=
  if n = 0 then some nothing else (Level.all.find? (·.rank = n)).map upTo

/-- The threshold with this name, in letters of either case. -/
def ofName? (name : String) : Option Threshold :=
  let name := name.toUpper
  if name = "OFF" then some nothing else (Level.all.find? (·.name = name)).map upTo

/-- A threshold by its number, which may have a plus sign, or by its name. -/
def read? (word : List Char) : Option Threshold :=
  let number := match word with
    | '+' :: rest => rest
    | _ => word
  if number ≠ [] ∧ number.all Char.isDigit then ofNumber? (Decimal.value number)
  else ofName? (String.ofList word)

end Threshold

/-- One part of a filter. -/
structure Directive where
  /-- What the target of an event has to start with. -/
  target : String
  /-- The name of a field that an event has to have. -/
  field : Option String
  /-- The directive asks for a surrounding span or for the value of a field, which no event has. -/
  isIdle : Bool
  threshold : Threshold
deriving DecidableEq, Repr

/-- A number without a sign: a name, or digits with a point, an exponent or both. -/
def isUnsignedNumber (cs : List Char) : Bool :=
  let isMark := fun c => c = 'e' || c = 'E'
  let significand := cs.takeWhile fun c => !isMark c
  let exponentIsRead := match cs.dropWhile fun c => !isMark c with
    | [] => true
    | _ :: '-' :: rest => rest ≠ [] && rest.all Char.isDigit
    | _ :: '+' :: rest => rest ≠ [] && rest.all Char.isDigit
    | _ :: rest => rest ≠ [] && rest.all Char.isDigit
  ["INF", "INFINITY", "NAN"].contains (String.ofList cs).toUpper ||
    (exponentIsRead && significand.any Char.isDigit && significand.count '.' < 2 &&
      significand.all fun c => c = '.' || c.isDigit)

/-- What a field can be asked to be: a number, or a text by a pattern. All numbers can be read as
    patterns but those with a plus sign. -/
def isFieldValue : List Char → Bool
  | '+' :: rest => isUnsignedNumber rest
  | cs => Pattern.isReadable cs

namespace Directive

/-- The threshold of a directive that names a target but no level. -/
def everything : Threshold := .upTo .trace

/-- A directive on a target with all its fields. -/
def onTarget (target : List Char) (threshold : Threshold) : Directive :=
  ⟨String.ofList target, none, false, threshold⟩

/-- A lone word is a threshold for all targets, or a target of which everything is shown. -/
def ofWord (word : List Char) : Directive :=
  match Threshold.read? word with
  | some threshold => onTarget [] threshold
  | none => onTarget word everything

/-- A directive on the events in a span. -/
def onSpan (target : List Char) : Directive :=
  ⟨String.ofList target, none, true, everything⟩

/-- A directive on the events with a field, which can be asked for its value behind an equals sign,
    and in a span if `inSpan`. -/
def onField? (target : List Char) (inSpan : Bool) (field : List Char) : Option Directive :=
  let name := field.takeWhile (· ≠ '=')
  match field.drop name.length with
  | [] =>
    if field = [] then none
    else some ⟨String.ofList target, some (String.ofList name), inSpan, everything⟩
  | _ :: value =>
    if isFieldValue (value.takeWhile (· ≠ '=')) then
      some ⟨String.ofList target, some (String.ofList name), true, everything⟩
    else none

/-- The first character of a target or a level. -/
def canStart (c : Char) : Bool :=
  c = '-' || c = ':' || c = '_' || Text.isAlphanumeric c

/-- A directive as it is written, and without the blanks around it. The blanks are passed over when
    its parts are told apart, but the parts are cut from the written form at the same positions, so
    that blanks before a directive shift them. -/
structure Writing where
  written : List Char
  trimmed : List Char

/-- A directive in its written form. -/
def Writing.of (written : List Char) : Writing :=
  ⟨written, (Text.skipBlank (Text.skipBlank written).reverse).reverse⟩

/-- Where an ending of the trimmed form starts. -/
def Writing.position (w : Writing) (ending : List Char) : Nat :=
  Text.byteCount w.trimmed - Text.byteCount ending

/-- The part in the place of `part`, with which an ending of the trimmed form starts. -/
def Writing.cut? (w : Writing) (ending part : List Char) : Option (List Char) :=
  Text.slice? (w.position ending) (Text.byteCount part) w.written

/-- The threshold behind an equals sign, in the place of an ending of the trimmed form. -/
def Writing.threshold? (w : Writing) (ending : List Char) : Option Threshold := do
  let word ← Text.dropBytes? (w.position ending) w.written
  if word = [] then some everything else Threshold.read? word

/-- The directive with what may follow its brackets: a level behind an equals sign. -/
def Writing.finish? (w : Writing) (directive : Directive) : List Char → Option Directive
  | [] => some directive
  | '=' :: rest => do
    let threshold ← w.threshold? rest
    some { directive with threshold := threshold }
  | _ => none

/-- A directive with the name of a span between its brackets, a field between braces, or both.
    The first bracket stands before `body`. -/
def Writing.bracketed? (w : Writing) (target body : List Char) : Option Directive := do
  let name := body.takeWhile fun c => c ≠ ']' && c ≠ '\x7b'
  let _ ← w.cut? body name
  match body.drop name.length with
  | ']' :: rest => w.finish? (onSpan target) rest
  | '\x7b' :: rest =>
    let field := rest.takeWhile (· ≠ '\x7d')
    let directive ← onField? target (name ≠ []) (← w.cut? rest field)
    match rest.drop field.length with
    | '\x7d' :: ']' :: rest => w.finish? directive rest
    | _ => none
  | _ => none

/-- A directive: a level or a target, or a target, brackets or both with a level behind an equals
    sign. -/
def read? (written : List Char) : Option Directive := do
  let w := Writing.of written
  let head := w.trimmed.takeWhile fun c => c ≠ '=' && c ≠ '['
  match w.trimmed.drop head.length with
  | '[' :: rest =>
    if head.head?.all canStart then w.bracketed? (← w.cut? w.trimmed head) rest else none
  | '=' :: rest =>
    if head.head?.any canStart then
      (w.threshold? rest).map (onTarget (← w.cut? w.trimmed head))
    else none
  | _ => if head.head?.any canStart then some (ofWord written) else none

/-- The directive decides on the event. -/
def concerns (directive : Directive) (event : Event) : Bool :=
  !directive.isIdle && directive.target.toList.isPrefixOf event.target.toList &&
    directive.field.all fun name => name = "message" || (event.fields.lookup name).isSome

/-- The first directive is asked before the second one, or they are on the same events. Longer
    targets come first, and of equally long ones those with a field; otherwise the name decides that
    comes last in the dictionary. -/
def precedes (a b : Directive) : Bool :=
  if a.target.utf8ByteSize ≠ b.target.utf8ByteSize then
    b.target.utf8ByteSize < a.target.utf8ByteSize
  else if a.field.isSome ≠ b.field.isSome then a.field.isSome
  else if a.target ≠ b.target then b.target.toList < a.target.toList
  else !decide ((a.field.getD "").toList < (b.field.getD "").toList)

end Directive

/-- The directives of a filter, the deciding ones first. Each gives a level to the events whose
    targets start with a given text. -/
structure Filter where
  directives : List Directive
deriving DecidableEq, Repr

namespace Filter

/-- The filter of these directives. More specific ones decide first, and of two on the same events
    the later one. Without directives only errors are shown. -/
def ofDirectives (directives : List Directive) : Filter :=
  if directives = [] then ⟨[.onTarget [] (.upTo .error)]⟩
  else ⟨directives.reverse.mergeSort Directive.precedes⟩

/-- A filter in its written form. -/
def read? (text : String) : Option Filter :=
  let parts := (text.toList.splitOn ',').filter (· ≠ [])
  (parts.mapM Directive.read?).map ofDirectives

/-- The filter of a run on which the environment says nothing. -/
def standard (verbose : Bool) : Filter :=
  if verbose then
    ofDirectives [.onTarget "advisory".toList (.upTo .debug), .onTarget [] (.upTo .info)]
  else
    ofDirectives [.onTarget "advisory".toList (.upTo .info), .onTarget [] (.upTo .warn)]

/-- The environment variable that can hold a written filter. -/
def variableName : String := "RUST_LOG"

/-- The filter of a run. A written one that cannot be read is passed over. -/
def choose (written : Option String) (verbose : Bool) : Filter :=
  (written.bind read?).getD (standard verbose)

/-- The event is shown. -/
def shows (filter : Filter) (event : Event) : Bool :=
  match filter.directives.find? (·.concerns event) with
  | some directive => directive.threshold.shows event.level
  | none => false

end Filter

end ExpiryGate.Log
