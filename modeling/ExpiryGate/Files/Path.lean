namespace ExpiryGate.Path

/-- The start of a path that stands for itself: the root slash, or a dot as the first segment of a
    relative path. The rest is the body. -/
def splitLead (path : List Char) : List Char × List Char :=
  match path with
  | '/' :: rest => (['/'], rest)
  | ['.'] => (['.'], [])
  | '.' :: '/' :: rest => (['.'], '/' :: rest)
  | _ => ([], path)

/-- A segment that means nothing behind the start of a path. -/
def isIdle (segment : List Char) : Bool :=
  segment = [] || segment = ['.']

/-- Segments without the idle ones at their end. -/
def trimIdle (segments : List (List Char)) : List (List Char) :=
  (segments.reverse.dropWhile isIdle).reverse

/-- The segments of a body up to the last one that means something. -/
def segments (body : List Char) : List (List Char) :=
  trimIdle (body.splitOn '/')

/-- The last component of a path, unless the path is empty, is the root or a lone dot, or ends in
    two dots. -/
def fileName? (path : String) : Option String :=
  match (segments (splitLead path.toList).2).getLast? with
  | some segment => if segment = ['.', '.'] then none else some (String.ofList segment)
  | none => none

/-- The path without its last component and the idle segments around it. The empty path and the
    root have no parent, and the parent of a lone component is the empty path. -/
def parent? (path : String) : Option String :=
  let (lead, body) := splitLead path.toList
  match segments body with
  | [] => if lead = ['.'] then some "" else none
  | found => some (String.ofList (lead ++ ['/'].intercalate (trimIdle found.dropLast)))

/-- The path `rest` below `base`; an absolute `rest` stays itself. -/
def join (base rest : String) : String :=
  if rest.toList.head? = some '/' then rest
  else if base = "" ∨ base.toList.getLast? = some '/' then base ++ rest
  else base ++ "/" ++ rest

end ExpiryGate.Path
