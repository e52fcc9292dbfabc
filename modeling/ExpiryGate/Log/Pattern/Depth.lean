namespace ExpiryGate.Log.Pattern

/-- The greatest depth of a pattern that can be read. -/
def maxDepth : Nat := 250

/-- The depth of parts with these depths side by side. A lone part stands for itself. -/
def depthOfParts : List Nat → Nat
  | [] => 0
  | [depth] => depth
  | depths => depths.foldl Nat.max 0 + 1

end ExpiryGate.Log.Pattern
