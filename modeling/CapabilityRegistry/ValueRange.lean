/-!
# Ranges of consecutive values

Named values are sorted and cut into maximal runs in which each value follows the one before it.
-/

namespace CapabilityRegistry

/-- A run of consecutive values, given by the names of its first and last value. -/
structure ValueRange where
  first : String
  last : String
  deriving DecidableEq, Repr

namespace ValueRange

/-- The run holds one value. -/
def isSingle (r : ValueRange) : Bool :=
  r.first = r.last

/-- Cuts sorted values into runs. The run being read began at `first` and has come to `last`. -/
def runs (first : String) (last : String × Int) : List (String × Int) → List ValueRange
  | [] => [⟨first, last.1⟩]
  | next :: rest =>
    if last.2 + 1 = next.2 then runs first next rest
    else ⟨first, last.1⟩ :: runs next.1 next rest

/-- The values in ascending order; equal values keep their order. -/
def sortByValue (values : List (String × Int)) : List (String × Int) :=
  values.mergeSort fun a b => a.2 ≤ b.2

/-- The maximal runs of consecutive values. An equal value starts a new run. -/
def contiguous (values : List (String × Int)) : List ValueRange :=
  match sortByValue values with
  | [] => []
  | first :: rest => runs first.1 first rest

end ValueRange

end CapabilityRegistry
