import ExpiryGate.Decimal.Binary64
import ExpiryGate.Toml.Datetime

namespace ExpiryGate.Toml

/-- A value without parts. -/
inductive Scalar where
  | string (s : String)
  | integer (n : Int)
  | float (x : Binary64)
  | boolean (b : Bool)
  | datetime (d : Datetime)
deriving DecidableEq

/-- A value as it is written out. Tables list their entries by key. -/
inductive Value where
  | scalar (s : Scalar)
  | array (items : List Value)
  | table (entries : List (String × Value))

end ExpiryGate.Toml
