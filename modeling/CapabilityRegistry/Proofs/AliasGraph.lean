import CapabilityRegistry.AliasGraph
import CapabilityRegistry.Proofs.Distinct
import CapabilityRegistry.Proofs.Walk
import Mathlib.Tactic.Lemma

/-!
# Edges of alias graphs

Which edges an alias graph has, in terms of the pairs that it was built from, and where the walks along
them end (`root?_eq_some_iff`).
-/

namespace CapabilityRegistry.AliasGraph

variable {g : AliasGraph}

/-- An inserted edge makes its name an alias and leaves the others. -/
lemma mem_aliases_insert {name target x : String} :
    x ∈ (g.insert name target).aliases ↔ x ∈ g.aliases ∨ x = name := by
  unfold insert
  split
  next old =>
    refine ⟨.inl, ?_⟩
    intro h
    rcases h with mem | rfl
    · exact mem
    · exact old
  next => simp [aliases]

/-- The names with an edge are those that start a pair. -/
lemma mem_aliases_ofPairs {pairs : List (String × String)} {x : String} :
    x ∈ (ofPairs pairs).aliases ↔ x ∈ pairs.map (·.1) := by
  suffices h : ∀ g : AliasGraph, x ∈ (pairs.foldl (fun g pair => g.insert pair.1 pair.2) g).aliases ↔
      x ∈ g.aliases ∨ x ∈ pairs.map (·.1) from
    (h {}).trans (or_iff_right List.not_mem_nil)
  intro g
  induction pairs generalizing g with
  | nil => simp
  | cons pair pairs ih =>
    rw [List.foldl_cons, ih, mem_aliases_insert, List.map_cons, List.mem_cons, or_assoc]

/-- No edge goes out from a name that is no alias. -/
lemma target?_eq_none_iff {name : String} : g.target? name = none ↔ name ∉ g.aliases := by
  simp only [target?, aliases, List.lookup_eq_none_iff, List.mem_map, not_exists, not_and]
  constructor
  · intro h e mem same
    simpa [same] using h e mem
  · intro h e mem
    simpa using fun same => h e mem same.symm

/-- A name has the one target that its edge leads to. -/
lemma target?_eq_some_iff {name target : String} :
    g.target? name = some target ↔ (name, target) ∈ g.edges :=
  (functional_of_nodup g.nodup).lookup_eq_some_iff

/-- Pairs that start with distinct names are the edges of their graph. -/
lemma edges_ofPairs {pairs : List (String × String)} (nodup : (pairs.map (·.1)).Nodup) :
    (ofPairs pairs).edges = pairs := by
  suffices h : ∀ g : AliasGraph, ((g.edges ++ pairs).map (·.1)).Nodup →
      (pairs.foldl (fun g pair => g.insert pair.1 pair.2) g).edges = g.edges ++ pairs from
    h {} nodup
  clear nodup
  intro g nodup
  induction pairs generalizing g with
  | nil => exact (List.append_nil _).symm
  | cons pair pairs ih =>
    -- no pair before this one starts with its name, so that it is inserted
    have new : pair.1 ∉ g.aliases := by
      rw [List.map_append, List.map_cons, List.nodup_middle, List.nodup_cons] at nodup
      exact fun mem => nodup.1 (List.mem_append_left _ mem)
    have inserted : (g.insert pair.1 pair.2).edges = g.edges ++ [pair] := by
      rw [insert, dif_neg new]
    rw [List.foldl_cons, ih _ (by simpa [inserted] using nodup), inserted, List.append_assoc]
    rfl

/-- The walk from a name ends where steps from it lead to a name without an edge. -/
theorem root?_eq_some_iff {name root : String} :
    g.root? name = some root ↔ Walk.Hops g.target? name root ∧ g.target? root = none := by
  show (if (g.trail name).returns then none else (g.trail name).names.getLast?) = some root ↔ _
  constructor
  · intro h
    split at h
    next => cases h
    next stops =>
      obtain ⟨last, hops, stop⟩ := Walk.returns_trail_eq_false_iff.1 (Bool.eq_false_iff.2 stops)
      cases h.symm.trans ((Walk.getLast?_trail stop).2 hops)
      exact ⟨hops, stop⟩
  · intro h
    obtain ⟨hops, stop⟩ := h
    have stops : (g.trail name).returns = false :=
      Walk.returns_trail_eq_false_iff.2 ⟨root, hops, stop⟩
    rw [if_neg (Bool.eq_false_iff.1 stops)]
    exact (Walk.getLast?_trail stop).2 hops

/-- The walk from a name without an edge ends at once. -/
lemma root?_of_not_mem {name : String} (new : name ∉ g.aliases) : g.root? name = some name :=
  root?_eq_some_iff.2 ⟨.refl, target?_eq_none_iff.2 new⟩

end CapabilityRegistry.AliasGraph
