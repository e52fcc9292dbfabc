import ExpiryGate.Waiver.Basic

namespace ExpiryGate

/-- The accepted waivers in the order in which they are written. -/
structure Baseline where
  waivers : List Waiver
deriving DecidableEq, Repr

namespace Baseline

/-- The identifiers that come again behind those in `seen`, in the order of their second
    occurrences; those in `repeats` are listed already. -/
def repeatsAfter (seen repeats : List String) : List Waiver → List String
  | [] => repeats
  | w :: ws =>
    if w.id ∈ seen then
      if w.id ∈ repeats then repeatsAfter seen repeats ws
      else repeatsAfter seen (repeats ++ [w.id]) ws
    else repeatsAfter (w.id :: seen) repeats ws

/-- The identifiers that several waivers share, each listed once. -/
def repeatedIds (b : Baseline) : List String :=
  repeatsAfter [] [] b.waivers

end Baseline

end ExpiryGate
