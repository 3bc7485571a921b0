import CapabilityRegistry.Text.Pieces

/-!
# Paths

A path is a text of pieces between slashes. Empty pieces name nothing, and neither do points, except
one that starts a relative path.
-/

namespace CapabilityRegistry

/-- A path. -/
structure Path where
  /-- It starts with a slash. -/
  absolute : Bool
  /-- The pieces between the other slashes, the last one first. -/
  pieces : List String
  deriving DecidableEq, Repr

namespace Path

/-- The path that a text spells. -/
def ofString (text : String) : Path :=
  let cs := text.toList
  let absolute := cs.head? == some '/'
  let spelled := Text.pieces '/' (if absolute then cs.drop 1 else cs)
  { absolute, pieces := (spelled.map String.ofList).reverse }

/-- The spelling of a path. -/
def toString (path : Path) : String :=
  (if path.absolute then "/" else "") ++ String.intercalate "/" path.pieces.reverse

/-- Drops the pieces at the end that name nothing. -/
def trim (absolute : Bool) : List String → List String
  | [] => []
  | piece :: before =>
    if piece = "" ∨ piece = "." ∧ (absolute ∨ before ≠ []) then trim absolute before
    else piece :: before

/-- Trimming adds no pieces. -/
theorem length_trim_le (absolute : Bool) (pieces : List String) :
    (trim absolute pieces).length ≤ pieces.length := by
  fun_induction trim absolute pieces with
  | case1 => exact Nat.le_refl _
  | case2 _ _ _ ih => exact Nat.le_succ_of_le ih
  | case3 => exact Nat.le_refl _

/-- The path without the last piece that names something. A path without such a piece has no
parent. -/
def parent? (path : Path) : Option Path :=
  match trim path.absolute path.pieces with
  | [] => none
  | _ :: before => some { path with pieces := trim path.absolute before }

/-- A parent has fewer pieces, so that going from parent to parent ends. -/
theorem parent?_shorter {path parent : Path} (h : path.parent? = some parent) :
    parent.pieces.length < path.pieces.length := by
  unfold parent? at h
  split at h
  · cases h
  next before trimmed =>
    cases h
    calc (trim path.absolute before).length
      _ < (trim path.absolute path.pieces).length :=
        trimmed ▸ Nat.lt_succ_of_le (length_trim_le _ before)
      _ ≤ path.pieces.length := length_trim_le _ _

end Path

end CapabilityRegistry
