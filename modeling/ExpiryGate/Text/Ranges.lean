namespace ExpiryGate.Text

/-- Whether `n` lies in one of the ordered ranges with an index in `[low, high)`. Each step halves
    the interval, so as many steps as `high - low` has binary digits are enough. -/
def searchRanges (ranges : Array (Nat × Nat)) (n : Nat) : Nat → Nat → Nat → Bool
  | 0, _, _ => false
  | steps + 1, low, high =>
    let middle := (low + high) / 2
    match ranges[middle]? with
    | none => false
    | some (first, last) =>
      if high ≤ low then false
      else if n < first then searchRanges ranges n steps low middle
      else if last < n then searchRanges ranges n steps (middle + 1) high
      else true

/-- `c` lies in one of the ordered ranges. -/
def inRanges (ranges : Array (Nat × Nat)) (c : Char) : Bool :=
  searchRanges ranges c.toNat (ranges.size.log2 + 1) 0 ranges.size

end ExpiryGate.Text
