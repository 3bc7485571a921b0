import CapabilityRegistry.Proofs.AliasGraph.Resolution
import CapabilityRegistry.Proofs.Loop
import Mathlib.Data.Fintype.Pigeonhole
import Mathlib.Data.Set.Finite.Basic

/-!
# Hops along aliases

The two walks from a name, as loops that remember the names visited, and by the names that so many hops lead to.
The loops test their name in different orders, but both finish with the answers of the graph
(`loop_resolveTurn`, `loop_rootTurn`). A name resolves to the value of the earliest hop that has one
(`resolve_eq_some_iff_hop`). Its walk ends at a name without an edge, or two hops lead to the same name
(`root?_eq_none_iff_hop`).
-/

namespace CapabilityRegistry.AliasGraph
open Relation

variable {α : Type} {g : AliasGraph} {lookup : String → Option α} {name following x : String} {value : α}

/-- The name after so many hops. -/
def hop? (g : AliasGraph) (name : String) : Nat → Option String
  | 0 => some name
  | k + 1 => (g.hop? name k).bind g.target?

/-! ## Loops -/

/-- A turn of the walk to a value: of a name not visited before, the value is asked and then the edge. -/
def resolveTurn (g : AliasGraph) (lookup : String → Option α) :
    List String × String → Option α ⊕ (List String × String)
  | (visited, current) =>
    if current ∈ visited then .inl none
    else
      match lookup current with
      | some value => .inl (some value)
      | none =>
        match g.target? current with
        | some following => .inr (current :: visited, following)
        | none => .inl none

/-- A turn of the walk to the end: only of a name with an edge it is asked whether it was visited before. -/
def rootTurn (g : AliasGraph) : List String × String → Option String ⊕ (List String × String)
  | (visited, current) =>
    match g.target? current with
    | some following => if current ∈ visited then .inl none else .inr (current :: visited, following)
    | none => .inl (some current)

/-- The end of a walk does not change with its first step. -/
lemma root?_of_step (hop : g.target? name = some following) : g.root? name = g.root? following := by
  apply Option.ext
  intro root
  rw [root?_eq_some_iff, root?_eq_some_iff]
  refine and_congr_left fun stop => ⟨fun hops => ?_, .head hop⟩
  obtain rfl | ⟨c, hop', rest⟩ := hops.cases_head
  · cases hop.symm.trans stop
  · cases hop.symm.trans hop'
    exact rest

/-- A name that hops back to itself has no root. -/
lemma root?_of_cycle (cycle : TransGen (Walk.Hop g.target?) name name) : g.root? name = none := by
  apply Option.eq_none_iff_forall_ne_some.2
  intro root ended
  obtain ⟨hops, stop⟩ := root?_eq_some_iff.1 ended
  exact Walk.not_end_of_cycle cycle hops stop

/-- The walk to a value finishes, whichever names without one it has visited on its way. -/
lemma loop_resolveTurn_beyond {visited : List String} (way : Bare g lookup visited name) :
    loop (g.resolveTurn lookup) (visited, name) = Part.some (g.resolve lookup name) := by
  induction visited, name using Walk.trail.induct g.target? g.aliases (fun _ _ => g.mem_aliases_of_target?) with
  | case1 visited name old =>
    rw [way.resolve_of_mem old]
    apply loop_of_return
    rw [resolveTurn, if_pos old]
  | case2 visited name new stop =>
    rw [resolve_of_end stop]
    apply loop_of_return
    rw [resolveTurn, if_neg new]
    cases lookup name with
    | some value => rfl
    | none => dsimp only; rw [stop]
  | case3 visited name new following hop _ ih =>
    cases own : lookup name with
    | some value =>
      rw [resolve_of_value own]
      apply loop_of_return
      rw [resolveTurn, if_neg new, own]
    | none =>
      have goes : g.resolveTurn lookup (visited, name) = .inr (name :: visited, following) := by
        rw [resolveTurn, if_neg new, own]
        dsimp only
        rw [hop]
      rw [resolve_of_step own hop, loop_of_turn goes]
      exact ih (way.cons own hop)

/-- The walk to a value finishes. -/
lemma loop_resolveTurn : loop (g.resolveTurn lookup) ([], name) = Part.some (g.resolve lookup name) :=
  loop_resolveTurn_beyond .nil

/-- The walk to the end finishes, if all names that it has visited led to its name. -/
lemma loop_rootTurn_beyond {visited : List String}
    (led : ∀ x ∈ visited, TransGen (Walk.Hop g.target?) x name) :
    loop g.rootTurn (visited, name) = Part.some (g.root? name) := by
  induction visited, name using Walk.trail.induct g.target? g.aliases (fun _ _ => g.mem_aliases_of_target?) with
  | case1 visited name old =>
    have cycle := led name old
    obtain ⟨following, hop, _⟩ := TransGen.head'_iff.1 cycle
    rw [root?_of_cycle cycle]
    apply loop_of_return
    rw [rootTurn, show g.target? name = some following from hop]
    exact if_pos old
  | case2 visited name new stop =>
    rw [root?_eq_some_iff.2 ⟨.refl, stop⟩]
    apply loop_of_return
    rw [rootTurn, stop]
  | case3 visited name new following hop _ ih =>
    have goes : g.rootTurn (visited, name) = .inr (name :: visited, following) := by
      rw [rootTurn, hop]
      exact if_neg new
    rw [root?_of_step hop, loop_of_turn goes]
    exact ih (Walk.led_cons led hop)

/-- The walk to the end finishes. -/
lemma loop_rootTurn : loop g.rootTurn ([], name) = Part.some (g.root? name) :=
  loop_rootTurn_beyond nofun

/-! ## Hops -/

/-- The hops behind the first one start from the next name. -/
lemma hop?_succ (hop : g.target? name = some following) (k : Nat) : g.hop? name (k + 1) = g.hop? following k := by
  induction k with
  | zero => exact hop
  | succ k ih => rw [hop?, ih, hop?]

/-- What is so many hops away is reached by hops. -/
lemma hops_of_hop? {k : Nat} (led : g.hop? name k = some x) : Walk.Hops g.target? name x := by
  induction k generalizing x with
  | zero =>
    cases led
    exact .refl
  | succ k ih =>
    obtain ⟨y, led, hop⟩ := Option.bind_eq_some_iff.1 led
    exact (ih led).tail hop

/-- A name that later hops come back to is on a cycle. -/
lemma cycle_of_hop? {i j : Nat} (less : i < j) (led : g.hop? name i = some x) (again : g.hop? name j = some x) :
    TransGen (Walk.Hop g.target?) x x := by
  suffices onward : ∀ k y, g.hop? name (i + k + 1) = some y → TransGen (Walk.Hop g.target?) x y by
    obtain ⟨k, rfl⟩ := Nat.exists_eq_add_of_lt less
    exact onward k x again
  intro k
  induction k with
  | zero =>
    intro y led'
    rw [Nat.add_zero, hop?, led] at led'
    exact .single led'
  | succ k ih =>
    intro y led'
    obtain ⟨z, led', hop⟩ := Option.bind_eq_some_iff.1 led'
    exact (ih z led').tail hop

/-- Steps lead where so many hops do. -/
lemma hops_iff_hop? : Walk.Hops g.target? name x ↔ ∃ k, g.hop? name k = some x := by
  refine ⟨fun hops => ?_, fun ⟨_, led⟩ => hops_of_hop? led⟩
  induction hops with
  | refl => exact ⟨0, rfl⟩
  | tail _ hop ih =>
    obtain ⟨k, led⟩ := ih
    refine ⟨k + 1, ?_⟩
    rw [hop?, led]
    exact hop

/-- A value is yielded by the earliest hop that has one. -/
lemma yields_iff_hop :
    Yields g lookup name value ↔ ∃ k x, g.hop? name k = some x ∧ lookup x = some value ∧
      ∀ j < k, ∀ y, g.hop? name j = some y → lookup y = none := by
  constructor
  · intro yields
    induction yields with
    | here found => exact ⟨0, _, rfl, found, nofun⟩
    | @step name following value bare hop _ ih =>
      obtain ⟨k, x, led, found, earlier⟩ := ih
      refine ⟨k + 1, x, (hop?_succ hop k).trans led, found, fun j less y led' => ?_⟩
      cases j with
      | zero =>
        cases led'
        exact bare
      | succ j =>
        rw [hop?_succ hop] at led'
        exact earlier j (Nat.lt_of_succ_lt_succ less) y led'
  · rintro ⟨k, x, led, found, earlier⟩
    induction k generalizing name with
    | zero =>
      cases led
      exact .here found
    | succ k ih =>
      have bare : lookup name = none := earlier 0 (Nat.succ_pos k) name rfl
      cases hop : g.target? name with
      | none =>
        -- no hop leads on from a name without an edge
        cases Walk.Hops.eq_of_end hop (hops_of_hop? led)
        cases found.symm.trans bare
      | some following =>
        rw [hop?_succ hop] at led
        refine .step bare hop (ih led fun j less y led' => ?_)
        exact earlier (j + 1) (Nat.succ_lt_succ less) y ((hop?_succ hop j).trans led')

/-- A name resolves to the value of the earliest hop that has one. -/
lemma resolve_eq_some_iff_hop :
    g.resolve lookup name = some value ↔ ∃ k x, g.hop? name k = some x ∧ lookup x = some value ∧
      ∀ j < k, ∀ y, g.hop? name j = some y → lookup y = none :=
  resolve_eq_some_iff.trans yields_iff_hop

/-- A name resolves to nothing when no hop has a value. -/
lemma resolve_eq_none_iff_hop :
    g.resolve lookup name = none ↔ ∀ k x, g.hop? name k = some x → lookup x = none := by
  have met : ∀ x, x ∈ (g.trail name).names ↔ ∃ k, g.hop? name k = some x :=
    fun x => Walk.mem_trail_iff.trans hops_iff_hop?
  rw [resolve, List.findSome?_eq_none_iff]
  simp only [met, forall_exists_index]
  exact forall_comm

/-- The walk ends at the name without an edge that some hop leads to. -/
lemma root?_eq_some_iff_hop {root : String} :
    g.root? name = some root ↔ (∃ k, g.hop? name k = some root) ∧ g.target? root = none := by
  rw [root?_eq_some_iff, hops_iff_hop?]

/-- The hops of a walk without an end never stop. -/
lemma exists_hop_of_root?_eq_none (endless : g.root? name = none) (k : Nat) :
    ∃ x ∈ g.aliases, g.hop? name k = some x := by
  have edge {k : Nat} {x : String} (led : g.hop? name k = some x) : ∃ y, g.target? x = some y := by
    cases hop : g.target? x with
    | some y => exact ⟨y, rfl⟩
    | none => cases endless.symm.trans (root?_eq_some_iff_hop.2 ⟨⟨k, led⟩, hop⟩)
  induction k with
  | zero =>
    obtain ⟨y, hop⟩ := edge (k := 0) rfl
    exact ⟨name, g.mem_aliases_of_target? hop, rfl⟩
  | succ k ih =>
    obtain ⟨x, _, led⟩ := ih
    obtain ⟨y, hop⟩ := edge led
    have led' : g.hop? name (k + 1) = some y := by rw [hop?, led]; exact hop
    obtain ⟨z, hop'⟩ := edge led'
    exact ⟨y, g.mem_aliases_of_target? hop', led'⟩

/-- A walk has no end exactly when two hops lead to the same name. -/
lemma root?_eq_none_iff_hop :
    g.root? name = none ↔ ∃ i j x, i < j ∧ g.hop? name i = some x ∧ g.hop? name j = some x := by
  constructor
  · intro endless
    choose x alias_ led using exists_hop_of_root?_eq_none endless
    -- there are more hops than aliases
    have finite : Finite {y // y ∈ g.aliases} := List.finite_toSet g.aliases
    obtain ⟨i, j, differ, same⟩ :=
      Finite.exists_ne_map_eq_of_infinite fun k => (⟨x k, alias_ k⟩ : {y // y ∈ g.aliases})
    have same : x i = x j := congrArg Subtype.val same
    obtain less | less := Nat.lt_or_gt_of_ne differ
    · exact ⟨i, j, x i, less, led i, same ▸ led j⟩
    · exact ⟨j, i, x j, less, led j, same ▸ led i⟩
  · rintro ⟨i, j, x, less, led, led'⟩
    apply Option.eq_none_iff_forall_ne_some.2
    intro root ended
    obtain ⟨hops, stop⟩ := root?_eq_some_iff.1 ended
    have cycle := cycle_of_hop? less led led'
    obtain onward | back := ReflTransGen.total_of_right_unique Walk.hop_rightUnique (hops_of_hop? led) hops
    · exact Walk.not_end_of_cycle cycle onward stop
    · cases Walk.Hops.eq_of_end stop back
      exact Walk.not_end_of_cycle cycle .refl stop

/-- What the two walks from a name give: both loops finish, with the value of the earliest hop that has one and with
the end of the edges, and with nothing where there is no such hop or the edges lead into a cycle. -/
theorem walks_by_hops (g : AliasGraph) (lookup : String → Option α) (name : String) :
    (loop (g.resolveTurn lookup) ([], name) = Part.some (g.resolve lookup name) ∧
      (∀ value, g.resolve lookup name = some value ↔ ∃ k x, g.hop? name k = some x ∧ lookup x = some value ∧
        ∀ j < k, ∀ y, g.hop? name j = some y → lookup y = none) ∧
      (g.resolve lookup name = none ↔ ∀ k x, g.hop? name k = some x → lookup x = none)) ∧
    loop g.rootTurn ([], name) = Part.some (g.root? name) ∧
      (∀ root, g.root? name = some root ↔ (∃ k, g.hop? name k = some root) ∧ g.target? root = none) ∧
      (g.root? name = none ↔ ∃ i j x, i < j ∧ g.hop? name i = some x ∧ g.hop? name j = some x) :=
  ⟨⟨loop_resolveTurn, fun _ => resolve_eq_some_iff_hop, resolve_eq_none_iff_hop⟩,
    loop_rootTurn, fun _ => root?_eq_some_iff_hop, root?_eq_none_iff_hop⟩

end CapabilityRegistry.AliasGraph
