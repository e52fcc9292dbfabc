import ExpiryGate.Toml.Value

namespace ExpiryGate.Toml

/-- How a table came about. -/
inductive TableOrigin where
  /-- By a header of its own, or as the document itself. -/
  | header
  /-- As a parent in a header. -/
  | implied
  /-- As a parent in a dotted key. -/
  | dotted
  /-- Between braces. Nothing can be added to it. -/
  | inline
deriving DecidableEq

/-- How an array came about: between brackets, or by headers of its tables. -/
inductive ArrayOrigin where
  | inline
  | headers
deriving DecidableEq

/-- A value in a document. The `source` of a node is the text from its first character on. -/
inductive Node where
  | leaf (source : List Char) (scalar : Scalar)
  /-- A number literal without a value. It is refused only where its value is needed. -/
  | misfit (source : List Char)
  | array (source : List Char) (origin : ArrayOrigin) (items : List Node)
  | table (source : List Char) (origin : TableOrigin) (entries : List (String × Node))

/-- The text that starts where the node was written. -/
def Node.source : Node → List Char
  | .leaf source _ => source
  | .misfit source => source
  | .array source _ _ => source
  | .table source _ _ => source

/-- The entries of a table, sorted by key and without repeated keys. -/
abbrev Entries := List (String × Node)

/-- Puts a node under a key: in place of the old one, or where the key belongs. -/
def Entries.insert (key : String) (node : Node) : Entries → Entries
  | [] => [(key, node)]
  | (k, n) :: rest =>
    if key = k then (key, node) :: rest
    else if key.toList < k.toList then (key, node) :: (k, n) :: rest
    else (k, n) :: Entries.insert key node rest

/-- One part of a key, with the text from its first character on. -/
structure KeyPart where
  name : String
  source : List Char

/-- A key: the parts before its last dot, and the last one. -/
structure Key where
  parents : List KeyPart
  last : KeyPart

/-- Changes the table that a path leads to, with missing tables created on the way. A path goes
    through the last table of an array made by headers. It cannot enter inline tables, and the
    path of a dotted key cannot enter tables that have a header of their own. -/
def descend (isDotted : Bool) (change : TableOrigin → Entries → Option Entries) :
    List KeyPart → TableOrigin → Entries → Option Entries
  | [], origin, entries => change origin entries
  | part :: path, _, entries =>
    match entries.lookup part.name with
    | none => do
      let origin := if isDotted then .dotted else .implied
      let inner ← descend isDotted change path origin []
      some (entries.insert part.name (.table part.source origin inner))
    | some (.table source origin inner) =>
      if origin = .inline ∨ (isDotted ∧ origin = .header) then none
      else do
        let inner ← descend isDotted change path origin inner
        some (entries.insert part.name (.table source origin inner))
    | some (.array source .headers items) =>
      match items.getLast? with
      | some (.table first origin inner) => do
        let inner ← descend isDotted change path origin inner
        let items := items.dropLast ++ [.table first origin inner]
        some (entries.insert part.name (.array source .headers items))
      | _ => none
    | some _ => none

/-- A key with its value. -/
structure Assignment where
  key : Key
  value : Node

/-- Adds an assignment to a table. The key must be new, and the table it ends up in must belong
    to the table at hand or have come about by dotted keys alone. -/
def assign (entries : Entries) (a : Assignment) : Option Entries :=
  descend true (fun origin inner =>
    if origin = .dotted ↔ a.key.parents = [] then none
    else
      match inner.lookup a.key.last.name with
      | some _ => none
      | none => some (inner.insert a.key.last.name a.value))
    a.key.parents .header entries

/-- The table that these assignments add up to. -/
def assignAll (entries : Entries) (assignments : List Assignment) : Option Entries :=
  assignments.foldlM assign entries

/-- A header with the assignments below it. -/
structure Section where
  source : List Char
  /-- The header is in double brackets and starts a new table of an array. -/
  inArray : Bool
  key : Key
  assignments : List Assignment

/-- Adds the table of a section to its parent. A table may have been implied before, but not
    defined. -/
def Section.addTo (s : Section) (parent : Entries) : Option Entries :=
  let name := s.key.last.name
  match s.inArray, parent.lookup name with
  | false, none => do
    let inner ← assignAll [] s.assignments
    some (parent.insert name (.table s.source .header inner))
  | false, some (.table _ .implied inner) => do
    let inner ← assignAll inner s.assignments
    some (parent.insert name (.table s.source .header inner))
  | true, none => do
    let inner ← assignAll [] s.assignments
    some (parent.insert name (.array s.source .headers [.table s.source .header inner]))
  | true, some (.array source .headers items) => do
    let inner ← assignAll [] s.assignments
    let items := items ++ [.table s.source .header inner]
    some (parent.insert name (.array source .headers items))
  | _, some _ => none

/-- Adds a section to a document. -/
def addSection (root : Entries) (s : Section) : Option Entries :=
  descend false (fun _ parent => s.addTo parent) s.key.parents .header root

end ExpiryGate.Toml
