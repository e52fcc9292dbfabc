namespace ExpiryGate.Toml

/-- A line and a column, both counted from 1. Columns count characters. -/
structure Position where
  line : Nat
  column : Nat
deriving DecidableEq, Repr

/-- The position behind a text. -/
def Position.behind (text : List Char) : Position :=
  { line := text.count '\n' + 1
    column := (text.reverse.takeWhile (· ≠ '\n')).length + 1 }

/-- The position in `text` at which its ending `source` starts. -/
def Position.ofSource (text source : List Char) : Position :=
  .behind (text.take (text.length - source.length))

end ExpiryGate.Toml
