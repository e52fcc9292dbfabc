import ExpiryGate.Log.Pattern.Atom
import ExpiryGate.Log.Pattern.Depth

namespace ExpiryGate.Log.Pattern

/-- A character of a class, or what a backslash stands for. -/
def readMember (flags : Flags) : List Char → Option (Atom × List Char)
  | [] => none
  | '\\' :: rest => readEscape flags rest
  | c :: rest => some (.verbatim c, rest)

/-- What follows a member of a class, or a range of them, the first one not above the last one. A
    dash before a closing bracket or another dash makes no range. -/
def skipRange (flags : Flags) (cs : List Char) : Option (List Char) := do
  let (first, rest) ← readMember flags cs
  if !first.isMember flags then none
  else
    match flags.skip rest with
    | '-' :: behind =>
      if flags.peek? behind = some ']' ∨ flags.peek? behind = some '-' then some rest
      else
        let (last, rest) ← readMember flags (flags.skip behind)
        match first, last with
        | .literal low _, .literal high _ =>
          if last.isMember flags && low ≤ high then some rest else none
        | _, _ => none
    | _ => some rest

/-- The names of the classes that are written between colons. -/
def classNames : List String :=
  ["alnum", "alpha", "ascii", "blank", "cntrl", "digit", "graph", "lower", "print", "punct",
    "space", "upper", "word", "xdigit"]

/-- Whether a named class stands for its complement, and what follows it, behind its opening
    bracket. -/
def namedClass? : List Char → Option (Bool × List Char)
  | ':' :: rest =>
    let negated := rest.head? = some '^'
    let rest := if negated then rest.drop 1 else rest
    let name := rest.takeWhile Char.isLower
    match rest.drop name.length with
    | ':' :: ']' :: rest =>
      if classNames.contains (String.ofList name) then some (negated, rest) else none
    | _ => none
  | _ => none

/-- A named class can be written under these flags. All of them are classes of bytes, but their
    complements are not. -/
def Flags.allowsNamed (flags : Flags) (negated : Bool) : Bool :=
  if flags.isUnicode then !flags.ignoresCase else !negated

/-- A class that has been opened and not been closed yet. -/
structure OpenClass where
  /-- The depths of the members behind the last operator. -/
  members : List Nat
  /-- The depth of what stands before the last operator. -/
  operand : Option Nat
  /-- Nothing but dashes has been read. -/
  isFresh : Bool
deriving DecidableEq, Repr

namespace OpenClass

/-- Nothing of the class has been read yet. -/
def fresh : OpenClass := ⟨[], none, true⟩

/-- Dashes at the start of a class are members, and so is a closing bracket in the first place. -/
def startsWith (cls : OpenClass) (c : Char) : Bool :=
  cls.isFresh && (c = '-' || (c = ']' && cls.members = []))

/-- The class with one more member. -/
def add (cls : OpenClass) (depth : Nat) : OpenClass :=
  { cls with members := depth :: cls.members, isFresh := false }

/-- How deep the members and operators are nested. -/
def depth (cls : OpenClass) : Nat :=
  match cls.operand with
  | none => depthOfParts cls.members
  | some depth => Nat.max depth (depthOfParts cls.members) + 1

/-- The class with an operator behind all that has been read. -/
def operate (cls : OpenClass) : OpenClass :=
  ⟨[], some cls.depth, false⟩

end OpenClass

/-- What follows the opening bracket of a class and a caret for its complement. A class of bytes can
    have no complement. -/
def openClass? (flags : Flags) (cs : List Char) : Option (List Char) :=
  match flags.skip cs with
  | '^' :: rest => if flags.isUnicode then some rest else none
  | rest => some rest

/-- An operator between two sets is one of these characters, written twice. -/
def isOperator (c : Char) : Bool :=
  c = '&' || c = '-' || c = '~'

/-- The depth of a class and what follows it. The number bounds the steps, and the list holds the
    classes around this one, the innermost first. -/
def readClass (flags : Flags) :
    Nat → OpenClass → List OpenClass → List Char → Option (Nat × List Char)
  | 0, _, _, _ => none
  | fuel + 1, cls, outer, cs =>
    match flags.skip cs with
    | [] => none
    | c :: rest =>
      if cls.startsWith c then
        if (Atom.verbatim c).isMember flags then
          readClass flags fuel { cls.add 0 with isFresh := c = '-' } outer rest
        else none
      else if c = '[' then
        match namedClass? rest with
        | some (negated, rest) =>
          if flags.allowsNamed negated then readClass flags fuel (cls.add 0) outer rest else none
        | none =>
          match openClass? flags rest with
          | some rest => readClass flags fuel .fresh (cls :: outer) rest
          | none => none
      else if c = ']' then
        match outer with
        | [] => some (cls.depth + 1, rest)
        | parent :: outer => readClass flags fuel (parent.add (cls.depth + 1)) outer rest
      else if isOperator c && rest.head? = some c then
        readClass flags fuel cls.operate outer (rest.drop 1)
      else
        match skipRange flags (c :: rest) with
        | some rest => readClass flags fuel (cls.add 0) outer rest
        | none => none

/-- The depth of a class and what follows it, behind its opening bracket. -/
def class? (flags : Flags) (cs : List Char) : Option (Nat × List Char) := do
  let rest ← openClass? flags cs
  readClass flags (rest.length + 1) .fresh [] rest

end ExpiryGate.Log.Pattern
