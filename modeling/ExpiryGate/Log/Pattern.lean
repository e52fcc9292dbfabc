import ExpiryGate.Log.Pattern.Class
import ExpiryGate.Text.Alphanumeric

namespace ExpiryGate.Log.Pattern

/-- A name for a group. -/
def isGroupName : List Char → Bool
  | [] => false
  | c :: rest =>
    (c = '_' || Text.isAlphabetic c) &&
      rest.all fun c => c = '_' || c = '.' || c = '[' || c = ']' || Text.isAlphanumeric c

/-- The pattern as a whole, or a group in it, as far as it has been read. -/
structure OpenGroup where
  flags : Flags
  /-- The depths of the branches before the last bar. -/
  branches : List Nat
  /-- The depths of the parts behind the last bar, the last one first. -/
  parts : List Nat
  /-- The last part can be repeated. -/
  canRepeat : Bool
deriving DecidableEq, Repr

namespace OpenGroup

/-- Nothing of the group has been read yet. -/
def start (flags : Flags) : OpenGroup := ⟨flags, [], [], false⟩

/-- How deep the branches are nested. -/
def depth (group : OpenGroup) : Nat :=
  depthOfParts (depthOfParts group.parts :: group.branches)

/-- The group with one more part, which can be repeated. -/
def add (group : OpenGroup) (depth : Nat) : OpenGroup :=
  { group with parts := depth :: group.parts, canRepeat := true }

/-- The group with a change of its flags. This is a part, but cannot be repeated. -/
def change (group : OpenGroup) (letters : List Char) : OpenGroup :=
  { group with
    flags := group.flags.change letters, parts := 0 :: group.parts, canRepeat := false }

/-- The group with a new branch. -/
def branch (group : OpenGroup) : OpenGroup :=
  { group with
    branches := depthOfParts group.parts :: group.branches, parts := [], canRepeat := false }

/-- The group with its last part repeated. -/
def repeated? (group : OpenGroup) : Option OpenGroup :=
  match group.canRepeat, group.parts with
  | true, depth :: parts => some { group with parts := (depth + 1) :: parts }
  | _, _ => none

end OpenGroup

/-- How far a pattern has been read. -/
structure Progress where
  /-- The innermost group that is still open. -/
  group : OpenGroup
  /-- The groups around it, the innermost first. -/
  outer : List OpenGroup
  names : List (List Char)
deriving DecidableEq, Repr

namespace Progress

/-- Nothing has been read yet. -/
def start : Progress := ⟨.start .standard, [], []⟩

/-- A group is opened; its own flags hold up to its end. -/
def openGroup (p : Progress) (flags : Flags) : Progress :=
  { p with group := .start flags, outer := p.group :: p.outer }

/-- The innermost group is closed. -/
def closeGroup? (p : Progress) : Option Progress :=
  match p.outer with
  | [] => none
  | parent :: outer => some { p with group := parent.add (p.group.depth + 1), outer := outer }

/-- The start of a group with a name. -/
def named? (p : Progress) (cs : List Char) : Option (Progress × List Char) :=
  let name := cs.takeWhile (· ≠ '>')
  match cs.drop name.length with
  | [] => none
  | _ :: rest =>
    if isGroupName name && !p.names.contains name then
      some ({ p.openGroup p.group.flags with names := name :: p.names }, rest)
    else none

/-- What stands behind an opening parenthesis: a name, flags, or the group at once. -/
def group? (p : Progress) : List Char → Option (Progress × List Char)
  | '?' :: 'P' :: '<' :: rest => p.named? rest
  | '?' :: '<' :: rest => p.named? rest
  | '?' :: rest =>
    let letters := rest.takeWhile fun c => c ≠ ':' && c ≠ ')'
    if Flags.areLetters letters then
      match rest.drop letters.length with
      | ':' :: rest => some (p.openGroup (p.group.flags.change letters), rest)
      | _ :: rest =>
        if letters = [] then none else some ({ p with group := p.group.change letters }, rest)
      | [] => none
    else none
  | rest => some (p.openGroup p.group.flags, rest)

/-- A part without parts of its own has been read. -/
def item (p : Progress) : Progress :=
  { p with group := p.group.add 0 }

/-- The next part of a pattern and what follows it. A question mark directly behind the sign of a
    repetition belongs to the sign. -/
def next? (p : Progress) (c : Char) (rest : List Char) : Option (Progress × List Char) :=
  let flags := p.group.flags
  if c = '(' then p.group? (flags.skip rest)
  else if c = ')' then p.closeGroup?.map fun p => (p, rest)
  else if c = '|' then some ({ p with group := p.group.branch }, rest)
  else if c = '*' ∨ c = '+' ∨ c = '?' then
    p.group.repeated?.map fun group =>
      ({ p with group := group }, if rest.head? = some '?' then rest.drop 1 else rest)
  else if c = '\x7b' then none
  else if c = '[' then
    (class? flags rest).map fun (depth, rest) => ({ p with group := p.group.add depth }, rest)
  else if c = '\\' then
    match readEscape flags rest with
    | none => none
    | some (atom, rest) => if atom.isAllowed flags then some (p.item, rest) else none
  else if c = '.' then if flags.isUnicode then some (p.item, rest) else none
  else if c = '^' ∨ c = '$' then some (p.item, rest)
  else if (Atom.verbatim c).isAllowed flags then some (p.item, rest)
  else none

/-- The pattern can be read to its end and is not nested too deep. The first argument bounds the
    number of parts. -/
def finishes : Nat → Progress → List Char → Bool
  | 0, _, _ => false
  | fuel + 1, p, cs =>
    match p.group.flags.skip cs with
    | [] => p.outer.isEmpty && p.group.depth ≤ maxDepth
    | c :: rest =>
      match p.next? c rest with
      | some (p, rest) => finishes fuel p rest
      | none => false

end Progress

/-- The pattern can be read. No event is decided by the value of a field, so that this is all that
    matters of a pattern. Patterns are regular expressions without the letter cases, classes and
    word boundaries of Unicode, and without repetition counts, since a directive ends at the first
    closing brace. -/
def isReadable (cs : List Char) : Bool :=
  Progress.start.finishes (cs.length + 1) cs

end ExpiryGate.Log.Pattern
