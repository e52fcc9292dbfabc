import ExpiryGate.Files.Basic
import ExpiryGate.Files.Path

namespace ExpiryGate

/-- What is at a place. -/
inductive Content where
  | directory
  | file (bytes : ByteArray)

/-- The names on the way from the root. -/
abbrev Place := List String

/-- Directories and files by their places. The root directory is always there, and there are no
    links, so two dots always lead to the parent. -/
structure FileStore where
  entries : List (Place × Content)

namespace FileStore

/-- The store with nothing but the root. -/
def empty : FileStore := ⟨[]⟩

/-- What is at a place, if anything. -/
def content? (store : FileStore) (place : Place) : Option Content :=
  if place = [] then some .directory else store.entries.lookup place

/-- There is a directory at the place. -/
def isDirectory (store : FileStore) (place : Place) : Bool :=
  match store.content? place with
  | some .directory => true
  | _ => false

/-- Puts something at a place. -/
def put (store : FileStore) (place : Place) (content : Content) : FileStore :=
  ⟨(place, content) :: store.entries.filter fun e => e.1 ≠ place⟩

/-- Takes away a place and everything below it. -/
def erase (store : FileStore) (place : Place) : FileStore :=
  ⟨store.entries.filter fun e => !place.isPrefixOf e.1⟩

/-- The greatest number of bytes in a name. -/
def maxName : Nat := 255

/-- The greatest number of bytes in a path. -/
def maxPath : Nat := 4095

/-- The path can be given to the operating system at all. -/
def isPath (path : String) : Bool :=
  path ≠ "" && !path.toList.contains '\x00' && path.utf8ByteSize ≤ maxPath

/-- One step from a directory: to itself, to its parent, or to a place in it. -/
def step (place : Place) (segment : String) : Place :=
  if segment = "" ∨ segment = "." then place
  else if segment = ".." then place.dropLast
  else place ++ [segment]

/-- Where a sequence of segments leads, if every step starts in a directory and ends at something
    that exists. -/
def follow (store : FileStore) : Place → List String → Option Place
  | place, [] => if (store.content? place).isSome then some place else none
  | place, segment :: segments =>
    if store.isDirectory place && segment.utf8ByteSize ≤ maxName then
      store.follow (step place segment) segments
    else none

/-- The segments of a path and the place at which it starts. -/
def startOf (directory : Place) (path : String) : Place × List String :=
  let segments := (path.toList.splitOn '/').map String.ofList
  if path.toList.head? = some '/' then ([], segments) else (directory, segments)

/-- The place that a path leads to. -/
def locate (store : FileStore) (directory : Place) (path : String) : Option Place :=
  if isPath path then
    let (place, segments) := startOf directory path
    store.follow place segments
  else none

/-- The files of a store, seen from a directory. -/
def view (store : FileStore) (directory : Place) : Files where
  present path := (store.locate directory path).isSome
  contents path :=
    match (store.locate directory path).bind store.content? with
    | some (.file bytes) => .ok bytes
    | some .directory => .error .isDirectory
    | none => .error .notFound

/-- What trying to change a store leads to. An attempt that fails can have changed something before
    it failed. -/
structure Attempt where
  store : FileStore
  succeeded : Bool

/-- The store as it is, after something that cannot be done. -/
def failure (store : FileStore) : Attempt := ⟨store, false⟩

/-- Makes the directories that a sequence of segments passes through, as far as possible. -/
def makeAlong (store : FileStore) : Place → List String → Attempt
  | place, [] => ⟨store, store.isDirectory place⟩
  | place, segment :: segments =>
    let next := step place segment
    if !store.isDirectory place || maxName < segment.utf8ByteSize then store.failure
    else if (store.content? next).isSome then store.makeAlong next segments
    else (store.put next .directory).makeAlong next segments

/-- The last segment of a path, apart from the slashes behind it. -/
def lastSegment? (path : String) : Option String :=
  (((path.toList.splitOn '/').filter (· ≠ [])).getLast?).map String.ofList

/-- Makes the directory of a path and the directories above it. -/
def makeNamed (store : FileStore) (directory : Place) (path : String) : Attempt :=
  if path = "" then ⟨store, true⟩
  else if isPath path then
    let (place, segments) := startOf directory path
    store.makeAlong place segments
  else store.failure

/-- Makes a directory with its parents. A file in the way makes this fail. By a path that ends in a
    dot only the parents are made, and the directory has to be there. -/
def makeDirectories (store : FileStore) (directory : Place) (path : String) : Attempt :=
  if isPath path ∧ lastSegment? path = some "." then
    let made := store.makeNamed directory ((Path.parent? path).getD "")
    ⟨made.store, made.succeeded && (made.store.locate directory path).any made.store.isDirectory⟩
  else store.makeNamed directory path

/-- The place of the file with a given path, if a file can be there: its name is behind the last
    slash, and what stands before is the path of its directory. -/
def filePlace? (store : FileStore) (directory : Place) (path parent : String) : Option Place := do
  let name ← (startOf directory path).2.getLast?
  if !isPath path || name = "" || name = "." || name = ".." || maxName < name.utf8ByteSize then none
  else
    let place ← store.locate directory (if parent = "" then "." else parent)
    if store.isDirectory (place ++ [name]) then none else some (place ++ [name])

/-- Writes a file, in place of an older one, and makes the directories above it. These stay even if
    there can be no such file. -/
def writeFile (store : FileStore) (directory : Place) (path : String) (bytes : ByteArray) :
    Attempt :=
  match Path.parent? path with
  | none => store.failure
  | some parent =>
    let made := store.makeDirectories directory parent
    if made.succeeded then
      match made.store.filePlace? directory path parent with
      | some place => ⟨made.store.put place (.file bytes), true⟩
      | none => made.store.failure
    else made

/-- Takes away everything below a place. -/
def clear (store : FileStore) (place : Place) : FileStore :=
  ⟨store.entries.filter fun e => !(place.isPrefixOf e.1 && e.1 ≠ place)⟩

/-- Removes a file, or a directory with its contents. A directory that is given by dots is emptied,
    but stays. -/
def remove (store : FileStore) (directory : Place) (path : String) : Attempt :=
  match store.locate directory path with
  | none => store.failure
  | some place =>
    if lastSegment? path = some "." ∨ lastSegment? path = some ".." then (store.clear place).failure
    else ⟨store.erase place, true⟩

/-- The text of a place as an absolute path. -/
def pathText (place : Place) : String :=
  "/" ++ String.intercalate "/" place

end FileStore

end ExpiryGate
