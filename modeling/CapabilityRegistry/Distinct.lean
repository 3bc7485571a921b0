/-!
# Distinct entries

Of the entries of a list that agree in a key, the first one counts.
-/

namespace CapabilityRegistry

/-- The entries whose key is neither `seen` nor that of an earlier entry. -/
def distinctBeyond {α β : Type} [DecidableEq β] (key : α → β) (seen : List β) : List α → List α
  | [] => []
  | a :: rest =>
    if key a ∈ seen then distinctBeyond key seen rest
    else a :: distinctBeyond key (key a :: seen) rest

/-- The list without the entries that agree in the key with an earlier one. -/
def distinctOn {α β : Type} [DecidableEq β] (key : α → β) (l : List α) : List α :=
  distinctBeyond key [] l

/-- The list without repetitions. -/
def distinct {α : Type} [DecidableEq α] (l : List α) : List α :=
  distinctOn id l

end CapabilityRegistry
