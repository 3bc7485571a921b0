import CapabilityRegistry.Disabled
import Mathlib.Tactic.Lemma

/-!
# What is disabled

The disabled names are those of the candidates, whatever the order in which the rules run; the order
only decides which reason is kept. To disable one more name is to list it in the rules.
-/

namespace CapabilityRegistry

/-- The rules with one more name that is always disabled. -/
def Rules.disabling (rules : Rules) (name : String) : Rules :=
  { rules with alwaysDisabled := name :: rules.alwaysDisabled }

namespace DisabledSet
variable {reg : Registry} {rules : Rules} {set : DisabledSet} {x : String}

/-- A set contains the names of its entries. -/
lemma contains_iff : set.contains x = true ↔ x ∈ set.names := by
  simp [contains, names]

/-- An inserted entry adds its name, if it was not there. -/
lemma mem_names_insert {entry : String × DisableReason} :
    x ∈ (set.insert entry).names ↔ x ∈ set.names ∨ x = entry.1 := by
  unfold insert
  split
  next old =>
    refine ⟨.inl, fun h => ?_⟩
    obtain mem | rfl := h
    · exact mem
    · exact contains_iff.1 old
  next => simp [names]

/-- Several entries add all their names. -/
lemma mem_names_foldl {entries : List (String × DisableReason)} :
    x ∈ (entries.foldl insert set).names ↔ x ∈ set.names ∨ x ∈ entries.map (·.1) := by
  induction entries generalizing set with
  | nil => simp
  | cons entry entries ih =>
    rw [List.foldl_cons, ih, mem_names_insert, List.map_cons, List.mem_cons, or_assoc]

/-- The disabled names are those of the candidates. -/
theorem contains_compute :
    (compute reg rules).contains x = true ↔ x ∈ (candidates reg rules).map (·.1) := by
  have new : x ∉ ({} : DisabledSet).names := List.not_mem_nil
  rw [contains_iff, compute, mem_names_foldl, or_iff_right new]

/-- What is excluded depends on which names are disabled, not on the reasons. -/
lemma excludes_congr {set' : DisabledSet} (same : ∀ name, set'.contains name = set.contains name)
    (d : StructDecl) : set'.excludes d = set.excludes d := by
  unfold excludes
  rw [same, show set'.contains = set.contains from funext same]

/-- A struct that is not disabled extends nothing but aggregators. -/
lemma extends_of_enabled {d : StructDecl} (declared : d ∈ reg.structs)
    (on : (compute reg rules).contains d.name = false) :
    d.extended.all rules.extendsAggregator = true := by
  cases extended : d.extended with
  | none => rfl
  | some targets =>
    rw [Option.all_some]
    apply Bool.of_not_eq_false
    intro foreign
    have off : (d.name, .foreignExtends) ∈ candidates reg rules := by
      apply List.mem_append_left
      apply List.mem_append_left
      apply List.mem_append_right
      exact List.mem_flatMap.2 ⟨d, declared, by simp [ofStruct, extended, foreign]⟩
    rw [contains_compute.2 (List.mem_map_of_mem off)] at on
    cases on

/-- One more name that is always disabled disables that name and no other. -/
theorem contains_compute_disabling {name : String} :
    (compute reg (rules.disabling name)).contains x = true ↔
      x = name ∨ (compute reg rules).contains x = true := by
  have more : candidates reg (rules.disabling name) =
      (name, .alwaysDisabled) :: candidates reg rules := rfl
  rw [contains_compute, contains_compute, more, List.map_cons, List.mem_cons]

end DisabledSet

end CapabilityRegistry
