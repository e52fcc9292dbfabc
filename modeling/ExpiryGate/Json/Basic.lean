import ExpiryGate.Decimal.Binary64

namespace ExpiryGate

/-- A JSON number. Integers that fit 64 bits, with or without sign, are kept exactly and all other
    numbers are doubles. -/
inductive Json.Number where
  | integer (n : Int)
  | double (x : Binary64)
deriving DecidableEq

/-- A JSON value. -/
inductive Json where
  | null
  | boolean (b : Bool)
  | number (n : Json.Number)
  | string (s : String)
  | array (items : List Json)
  | object (members : List (String × Json))

namespace Json

/-- A value that may be absent is null where it is. -/
def optional {α : Type} (write : α → Json) : Option α → Json
  | none => .null
  | some x => write x

/-- The member under `key`. -/
def member? (members : List (String × Json)) (key : String) : Option Json :=
  members.lookup key

/-- Keys are sorted by their code points. -/
def keyLe (a b : String × Json) : Bool :=
  !decide (b.1.toList < a.1.toList)

/-- Of neighbours with one key the later one stays. -/
def keepLast : List (String × Json) → List (String × Json)
  | [] => []
  | [m] => [m]
  | m :: n :: rest => if m.1 = n.1 then keepLast (n :: rest) else m :: keepLast (n :: rest)

/-- The object with these members: sorted by key, and the last one wins where a key repeats. -/
def ofMembers (members : List (String × Json)) : Json :=
  .object (keepLast (members.mergeSort keyLe))

mutual

/-- The number of arrays and objects around the innermost value. -/
def depth : Json → Nat
  | .array items => depthItems items + 1
  | .object members => depthMembers members + 1
  | _ => 0

/-- The depth of the deepest item. -/
def depthItems : List Json → Nat
  | [] => 0
  | item :: items => max item.depth (depthItems items)

/-- The depth of the deepest member. -/
def depthMembers : List (String × Json) → Nat
  | [] => 0
  | m :: members => max (depthMember m) (depthMembers members)

/-- The depth of a member, which is that of its value. -/
def depthMember : String × Json → Nat
  | (_, value) => value.depth

end

end Json

end ExpiryGate
