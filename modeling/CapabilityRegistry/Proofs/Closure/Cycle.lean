import CapabilityRegistry.Proofs.Closure.Order

/-!
# Composition cycles

When the closure of a registry fails. The walk reaches each struct on one way only, its `FirstWay`: from
the earliest root that leads to it, always through the earliest member that still does. It fails exactly
when a struct holds by value another one on the way to it, which `compute_error_iff` states without the
walk. A cycle of members by value is therefore always found (`error_of_valueCycle`), but a cycle that
passes through a pointer is found as well when the walk enters it at the struct behind the pointer.
-/

namespace CapabilityRegistry.Closure
open Relation

/-- The structs that leads reach, in order. -/
def targets (ls : List Lead) : List String :=
  ls.filterMap (·.target?)

/-- The structs that the members of a struct stand for, in the order of the members. -/
def parts (reg : Registry) (name : String) : List String :=
  targets (leads reg name)

/-- The way on which the walk comes to a goal. Of the candidates it takes the earliest one from which
the goal can be reached off the avoided structs, and goes on from there in the same manner. -/
inductive FirstWay (reg : Registry) (goal : String) :
    List String → List String → List String → Prop where
  | here {avoided rest} :
    goal ∉ avoided →
    FirstWay reg goal avoided (goal :: rest) [goal]
  | skip {avoided c rest way} :
    ¬reg.ReachesOff avoided c goal →
    FirstWay reg goal avoided rest way →
    FirstWay reg goal avoided (c :: rest) way
  | through {avoided c rest way} :
    c ≠ goal →
    reg.ReachesOff avoided c goal →
    FirstWay reg goal (c :: avoided) (parts reg c) way →
    FirstWay reg goal avoided (c :: rest) (c :: way)

variable {reg : Registry}

/-- The parts of a struct are the structs that it is composed of. -/
lemma mem_parts_iff {owner struct : String} : struct ∈ parts reg owner ↔ reg.Composes owner struct := by
  simp only [parts, targets, List.mem_filterMap, composes_iff]

/-- A first way starts at a candidate that reaches the goal. -/
lemma FirstWay.exists_reaches {goal : String} {avoided cands way : List String}
    (first : FirstWay reg goal avoided cands way) : ∃ c ∈ cands, reg.ReachesOff avoided c goal := by
  induction first with
  | here off => exact ⟨goal, List.mem_cons_self, off, .refl⟩
  | skip _ _ ih =>
    obtain ⟨c, mem, reaches⟩ := ih
    exact ⟨c, List.mem_cons_of_mem _ mem, reaches⟩
  | @through avoided c rest way _ reaches _ _ => exact ⟨c, List.mem_cons_self, reaches⟩

/-- Every struct on a first way leads to the goal. -/
lemma FirstWay.leads_to {goal struct : String} {avoided cands way : List String}
    (first : FirstWay reg goal avoided cands way) (mem : struct ∈ way) :
    ReflTransGen reg.Composes struct goal := by
  induction first with
  | here =>
    cases List.mem_singleton.1 mem
    exact .refl
  | skip _ _ ih => exact ih mem
  | through _ reaches _ ih =>
    cases mem with
    | head => exact Registry.reachesOff_nil.1 (reaches.mono (List.nil_subset _))
    | tail _ mem => exact ih mem

/-- There is no more than one first way. -/
lemma FirstWay.unique {goal : String} {avoided cands way way' : List String}
    (first : FirstWay reg goal avoided cands way) (first' : FirstWay reg goal avoided cands way') :
    way = way' := by
  induction first generalizing way' with
  | here off =>
    cases first' with
    | here => rfl
    | skip blocked _ => exact (blocked ⟨off, .refl⟩).elim
    | through differ _ _ => exact (differ rfl).elim
  | skip blocked _ ih =>
    cases first' with
    | here off => exact (blocked ⟨off, .refl⟩).elim
    | skip _ first' => exact ih first'
    | through _ reaches _ => exact (blocked reaches).elim
  | through differ reaches _ ih =>
    cases first' with
    | here => exact (differ rfl).elim
    | skip blocked _ => exact (blocked reaches).elim
    | through _ _ first' => rw [ih first']

/-- A goal that some candidate reaches has a first way. -/
lemma exists_firstWay {goal : String} {avoided cands : List String}
    (reached : ∃ c ∈ cands, reg.ReachesOff avoided c goal) :
    ∃ way, FirstWay reg goal avoided cands way := by
  -- the avoided structs grow with each struct on the way, the candidates shrink in between
  induction count : Walk.remaining reg.structNames avoided using Nat.strongRecOn
    generalizing avoided cands with
  | ind n ihAvoided =>
  induction cands with
  | nil =>
    obtain ⟨c, mem, _⟩ := reached
    cases mem
  | cons c rest ihRest =>
    by_cases reaches : reg.ReachesOff avoided c goal
    · by_cases same : c = goal
      · subst same
        exact ⟨[c], .here reaches.1⟩
      obtain e | ⟨d, step, reaches'⟩ := (Registry.reachesOff_iff_enter reaches.1).1 reaches
      · exact (same e.symm).elim
      have part := mem_parts_iff.2 step
      obtain ⟨m, decl, found, _⟩ := step
      have fewer := Walk.remaining_cons_lt (reg.mem_structNames_of_structDecl? found) reaches.1
      rw [count] at fewer
      obtain ⟨way, first⟩ := ihAvoided _ fewer ⟨d, part, reaches'⟩ rfl
      exact ⟨c :: way, .through same reaches first⟩
    · obtain ⟨c', mem, reaches'⟩ := reached
      cases mem with
      | head => exact (reaches reaches').elim
      | tail _ mem =>
        obtain ⟨way, first⟩ := ihRest ⟨c', mem, reaches'⟩
        exact ⟨way, .skip reaches first⟩

/-- A struct contains another one where a lead goes there by value. -/
lemma contains_iff {owner struct : String} :
    reg.Contains owner struct ↔ ∃ l ∈ leads reg owner, l.target? = some struct ∧ l.byPointer = false :=
  (exists_lead_iff (p := fun b => b = false)).symm

/-! ## Closing a cycle -/

/-- A lead by value comes back to the path. -/
def ClosesAtOnce (path : List String) (ls : List Lead) : Prop :=
  ∃ l ∈ ls, ∃ v ∈ path, l.target? = some v ∧ l.byPointer = false

/-- A struct that is not listed holds by value one on the way to it. -/
def ClosesLater (reg : Registry) (path order : List String) (ls : List Lead) : Prop :=
  ∃ u, u ∉ order ∧ ∃ way, FirstWay reg u path (targets ls) way ∧
    ∃ v, reg.Contains u v ∧ v ∈ way ++ path

/-- Following the leads closes a cycle by value. -/
def Closes (reg : Registry) (path order : List String) (ls : List Lead) : Prop :=
  ClosesAtOnce path ls ∨ ClosesLater reg path order ls

section Closes
variable {path order : List String} {l : Lead} {ls : List Lead} {v : String}

/-- Without leads no cycle is closed. -/
lemma not_closes_nil : ¬Closes reg path order [] := by
  intro h
  rcases h with ⟨l, mem, _⟩ | ⟨u, _, way, first, _⟩
  · cases mem
  · cases first

/-- A lead that is passed closes nothing. -/
lemma closes_cons_pass (settled : Settled reg path order)
    (passed : ∀ v, l.target? = some v → v ∈ order ∨ v ∈ path ∧ l.byPointer = true) :
    Closes reg path order (l :: ls) ↔ Closes reg path order ls := by
  have atOnce : ClosesAtOnce path (l :: ls) ↔ ClosesAtOnce path ls := by
    rw [ClosesAtOnce, List.exists_mem_cons_iff, or_iff_right]
    · rfl
    intro h
    obtain ⟨v, onPath, target, value⟩ := h
    obtain listed | ⟨_, pointer⟩ := passed v target
    · exact settled.off v listed onPath
    · rw [value] at pointer
      cases pointer
  have later : ClosesLater reg path order (l :: ls) ↔ ClosesLater reg path order ls := by
    refine exists_congr fun u => and_congr_right fun new => exists_congr fun way => ?_
    refine and_congr_left fun _ => ?_
    cases target : l.target? with
    | none => rw [targets, List.filterMap_cons_none target, ← targets]
    | some v =>
      rw [targets, List.filterMap_cons_some target, ← targets]
      -- the struct of the lead is listed or on the path, so no way to an unlisted one goes through it
      have blocked : ¬reg.ReachesOff path v u := by
        intro reaches
        obtain listed | ⟨onPath, _⟩ := passed v target
        · exact new (settled.mem_of_reaches listed reaches)
        · exact reaches.1 onPath
      refine ⟨fun first => ?_, .skip blocked⟩
      cases first with
      | here off => exact (blocked ⟨off, .refl⟩).elim
      | skip _ first => exact first
      | through _ reaches _ => exact (blocked reaches).elim
  rw [Closes, atOnce, later, Closes]

/-- What closes a cycle below the struct of a lead closes one from the lead. -/
lemma Closes.enter (target : l.target? = some v) (new : v ∉ order) (off : v ∉ path)
    (closes : Closes reg (v :: path) order (leads reg v)) : Closes reg path order (l :: ls) := by
  have cands : targets (l :: ls) = v :: targets ls := List.filterMap_cons_some target
  obtain ⟨l', mem, w, onPath, target', value⟩ | ⟨u, new', way, first, w, contains, mem⟩ := closes
  · refine .inr ⟨v, new, [v], ?_, w, contains_iff.2 ⟨l', mem, target', value⟩, onPath⟩
    rw [cands]
    exact .here off
  · obtain ⟨c, mem', reaches⟩ := first.exists_reaches
    have differ : v ≠ u := by
      rintro rfl
      exact reaches.not_mem List.mem_cons_self
    have reaches' : reg.ReachesOff path v u :=
      (Registry.reachesOff_iff_enter off).2 (.inr ⟨c, mem_parts_iff.1 mem', reaches⟩)
    refine .inr ⟨u, new', v :: way, ?_, w, contains, ?_⟩
    · rw [cands]
      exact .through differ reaches' first
    · simp only [List.cons_append, List.mem_cons, List.mem_append] at mem ⊢
      tauto

/-- When nothing closes below the struct of a lead, the later leads decide, and they find listed what
the struct reaches. -/
lemma closes_cons_enter {order' : List String} (target : l.target? = some v) (off : v ∉ path)
    (open' : ¬Closes reg (v :: path) order (leads reg v))
    (grown : ∀ u, u ∈ order' ↔ u ∈ order ∨ reg.ReachesOff path v u) :
    Closes reg path order (l :: ls) ↔ Closes reg path order' ls := by
  have cands : targets (l :: ls) = v :: targets ls := List.filterMap_cons_some target
  have atOnce : ClosesAtOnce path (l :: ls) ↔ ClosesAtOnce path ls := by
    rw [ClosesAtOnce, List.exists_mem_cons_iff, or_iff_right]
    · rfl
    intro h
    obtain ⟨w, onPath, target', _⟩ := h
    cases target.symm.trans target'
    exact off onPath
  have later : ClosesLater reg path order (l :: ls) ↔ ClosesLater reg path order' ls := by
    constructor
    · intro h
      obtain ⟨u, new, way, first, w, contains, mem⟩ := h
      rw [cands] at first
      cases first with
      | here =>
        obtain ⟨l', mem', target', value⟩ := contains_iff.1 contains
        exact (open' (.inl ⟨l', mem', w, mem, target', value⟩)).elim
      | skip blocked first =>
        exact ⟨u, fun mem => ((grown u).1 mem).elim new blocked, way, first, w, contains, mem⟩
      | through _ _ first =>
        refine (open' (.inr ⟨u, new, _, first, w, contains, ?_⟩)).elim
        simp only [List.cons_append, List.mem_cons, List.mem_append] at mem ⊢
        tauto
    · intro h
      obtain ⟨u, new, way, first, w, contains, mem⟩ := h
      rw [grown u, not_or] at new
      refine ⟨u, new.1, way, ?_, w, contains, mem⟩
      rw [cands]
      exact .skip new.2 first
  rw [Closes, atOnce, later, Closes]

end Closes

/-- A descent fails exactly when its leads close a cycle by value. -/
theorem Descends.error_iff {path s ls r} (steps : Descends reg path s ls r)
    (settled : Settled reg path s.order) :
    (∃ name, r = .error name) ↔ Closes reg path s.order ls := by
  induction steps with
  | nil => exact ⟨nofun, fun closes => (not_closes_nil closes).elim⟩
  | pass passed _ ih =>
    rw [closes_cons_pass settled passed]
    simpa using ih (by simpa using settled)
  | @cycle path s l ls v target new onPath value =>
    exact ⟨fun _ => .inl ⟨l, List.mem_cons_self, v, onPath, target, value⟩, fun _ => ⟨v, rfl⟩⟩
  | @fail path s l ls v e target new off _ ih =>
    have closes := (ih (by simpa using settled.push new)).1 ⟨e, rfl⟩
    rw [Survey.foldl_note_order] at closes
    exact ⟨fun _ => closes.enter target new off, fun _ => ⟨e, rfl⟩⟩
  | @enter path s l ls v inner r target new off stepsIn _ ihIn ih =>
    have pushed : Settled reg (v :: path) (l.names.foldl (Survey.note reg) s).order := by
      simpa using settled.push new
    have open' : ¬Closes reg (v :: path) s.order (leads reg v) := by
      intro closes
      obtain ⟨name, e⟩ := (ihIn pushed).2 (by simpa using closes)
      cases e
    obtain ⟨popped, grown⟩ := stepsIn.emit_order pushed off
    simp only [Survey.foldl_note_order] at grown
    rw [closes_cons_enter target off open' grown]
    exact ih popped

/-! ## Closures -/

section closure
variable {disabled : DisabledSet} {rules : Rules}

/-- The declared names from which a closure starts. -/
def declaredRoots (reg : Registry) (disabled : DisabledSet) (rules : Rules) : List String :=
  (roots reg disabled rules).filter fun name => (reg.structDecl? name).isSome

/-- The walk starts with the declared roots, in their order. -/
lemma targets_rootLeads :
    targets (rootLeads reg disabled rules) = declaredRoots reg disabled rules := by
  unfold rootLeads declaredRoots
  induction roots reg disabled rules with
  | nil => rfl
  | cons name names ih =>
    rw [List.map_cons, targets]
    cases found : reg.structDecl? name with
    | none => simp [rootLead, found, ← ih, targets]
    | some d => simp [rootLead, found, ← ih, targets]

/-- A struct holds by value one on the way from the roots to it. -/
def ClosesFirstWay (reg : Registry) (disabled : DisabledSet) (rules : Rules) : Prop :=
  ∃ owner struct way, FirstWay reg owner [] (declaredRoots reg disabled rules) way ∧
    struct ∈ way ∧ reg.Contains owner struct

/-- At the start, where nothing is listed or on the path, closing a cycle is a matter of the first ways alone.
-/
lemma closes_rootLeads :
    Closes reg [] [] (rootLeads reg disabled rules) ↔ ClosesFirstWay reg disabled rules := by
  unfold Closes ClosesAtOnce ClosesLater ClosesFirstWay
  rw [targets_rootLeads]
  constructor
  · intro h
    rcases h with ⟨_, _, _, onPath, _⟩ | ⟨u, _, way, first, v, contains, mem⟩
    · cases onPath
    · exact ⟨u, v, way, first, by simpa using mem, contains⟩
  · intro h
    obtain ⟨u, v, way, first, mem, contains⟩ := h
    exact .inr ⟨u, List.not_mem_nil, way, first, v, contains, by simpa using mem⟩

/-- A closure fails exactly when a struct holds by value one on the way to it. -/
theorem compute_error_iff :
    (∃ name, DependencyClosure.compute reg disabled rules = .error name) ↔
      ClosesFirstWay reg disabled rules := by
  rw [← closes_rootLeads]
  cases result : DependencyClosure.compute reg disabled rules with
  | error name =>
    have closes := ((descends_of_error result).error_iff Settled.nil).1 ⟨name, rfl⟩
    exact ⟨fun _ => closes, fun _ => ⟨name, rfl⟩⟩
  | ok closure =>
    obtain ⟨s, steps, _⟩ := descends_of_ok result
    refine ⟨nofun, fun closes => ?_⟩
    obtain ⟨name, e⟩ := (steps.error_iff Settled.nil).2 closes
    cases e

/-- Structs that hold one another by value stand in the order of their places. -/
lemma Emission.lt_of_contains {order : List String} (emission : Emission reg order) {i : Nat}
    {a b : String} (chain : TransGen reg.Contains a b) (place : order[i]? = some a) :
    ∃ j < i, order[j]? = some b := by
  induction chain with
  | single step =>
    obtain ⟨m, member, value⟩ := step
    exact emission.byValue place member value
  | tail _ step ih =>
    obtain ⟨j, less, place'⟩ := ih
    obtain ⟨m, member, value⟩ := step
    obtain ⟨k, less', place''⟩ := emission.byValue place' member value
    exact ⟨k, Nat.lt_trans less' less, place''⟩

/-- A cycle of members by value has no order of emission. -/
theorem error_of_valueCycle {struct : String} (reachable : reg.Reachable disabled rules struct)
    (cycle : TransGen reg.Contains struct struct) :
    ∃ name, DependencyClosure.compute reg disabled rules = .error name := by
  cases result : DependencyClosure.compute reg disabled rules with
  | error name => exact ⟨name, rfl⟩
  | ok closure =>
    have emission := emission_structs result
    obtain ⟨i, bound, place⟩ := List.mem_iff_getElem.1 ((mem_structs_iff result struct).2 reachable)
    have place' : (structs closure)[i]? = some struct := by
      rw [List.getElem?_eq_getElem bound, place]
    obtain ⟨j, less, again⟩ := emission.lt_of_contains cycle place'
    have same : i = j := (List.getElem?_inj bound emission.nodup).1 (place'.trans again.symm)
    omega

/-- Where a member by value closes a cycle, members by value alone close it. -/
def ValueClosed (reg : Registry) (disabled : DisabledSet) (rules : Rules) : Prop :=
  ∀ owner struct, reg.Reachable disabled rules owner → reg.Contains owner struct →
    ReflTransGen reg.Composes struct owner → ReflTransGen reg.Contains struct owner

/-- A struct with a first way from the roots is reachable. -/
lemma FirstWay.reachable {struct : String} {way : List String}
    (first : FirstWay reg struct [] (declaredRoots reg disabled rules) way) :
    reg.Reachable disabled rules struct := by
  obtain ⟨root, mem, reaches⟩ := first.exists_reaches
  obtain ⟨start, declared⟩ := List.mem_filter.1 mem
  exact ⟨root, start, declared, Registry.reachesOff_nil.1 reaches⟩

/-- Every reachable struct has exactly one first way from the roots. -/
theorem existsUnique_firstWay {struct : String} (reachable : reg.Reachable disabled rules struct) :
    ∃! way, FirstWay reg struct [] (declaredRoots reg disabled rules) way := by
  obtain ⟨root, start, declared, steps⟩ := reachable
  have mem : root ∈ declaredRoots reg disabled rules := List.mem_filter.2 ⟨start, declared⟩
  obtain ⟨way, first⟩ := exists_firstWay ⟨root, mem, Registry.reachesOff_nil.2 steps⟩
  exact ⟨way, first, fun way' first' => first'.unique first⟩

/-- A struct that holds by value one on the way to it lies on a cycle of members by value, unless only
a pointer leads back to it. -/
lemma ClosesFirstWay.valueCycle (closed : ValueClosed reg disabled rules)
    (closes : ClosesFirstWay reg disabled rules) :
    ∃ struct, reg.Reachable disabled rules struct ∧ TransGen reg.Contains struct struct := by
  obtain ⟨owner, struct, way, first, mem, contains⟩ := closes
  have back := closed owner struct first.reachable contains (first.leads_to mem)
  exact ⟨owner, first.reachable, .head' contains back⟩

/-- A closure fails exactly when some struct holds by value one on the way to it. So it fails for each
reachable cycle of members by value, and for nothing else where such members close no other cycle. -/
theorem error_iff_closesFirstWay (reg : Registry) (disabled : DisabledSet) (rules : Rules) :
    ((∃ name, DependencyClosure.compute reg disabled rules = .error name) ↔
        ClosesFirstWay reg disabled rules) ∧
      ((∃ struct, reg.Reachable disabled rules struct ∧ TransGen reg.Contains struct struct) →
        ∃ name, DependencyClosure.compute reg disabled rules = .error name) ∧
      (ValueClosed reg disabled rules →
        ((∃ name, DependencyClosure.compute reg disabled rules = .error name) ↔
          ∃ struct, reg.Reachable disabled rules struct ∧ TransGen reg.Contains struct struct)) := by
  have found : (∃ struct, reg.Reachable disabled rules struct ∧ TransGen reg.Contains struct struct) →
      ∃ name, DependencyClosure.compute reg disabled rules = .error name :=
    fun ⟨_, reachable, cycle⟩ => error_of_valueCycle reachable cycle
  refine ⟨compute_error_iff, found, fun closed => ⟨fun failed => ?_, found⟩⟩
  exact (compute_error_iff.1 failed).valueCycle closed

end closure

/-! ## A cycle through a pointer -/

/-- The registry of `backEdge` with the heap as a device of its own, declared first. -/
def pointerFirst : Registry where
  structs := [
    { name := "VkPhysicalDeviceB", members := [bareMember "pDevice" "VkPhysicalDeviceA" 1] },
    { name := "VkPhysicalDeviceA", members := [bareMember "heap" "VkPhysicalDeviceB" 0] }]

/-- The same declarations in the other order. -/
def valueFirst : Registry where
  structs := pointerFirst.structs.reverse

/-- What the other order gives. -/
def emitted : DependencyClosure where
  order := [⟨"VkPhysicalDeviceB", true⟩, ⟨"VkPhysicalDeviceA", true⟩]

/-- Of the two devices one holds the other by value, and not the other way round. -/
lemma contains_pointerFirst {a b : String} (h : pointerFirst.Contains a b) :
    a = "VkPhysicalDeviceA" ∧ b = "VkPhysicalDeviceB" := by
  obtain ⟨m, ⟨d, found, mem, stands⟩, value⟩ := h
  rw [← Registry.memberStruct?_eq_some_iff] at stands
  have name : d.name = a := by simpa using List.find?_some found
  have declared := List.mem_of_find?_eq_some found
  simp only [pointerFirst, List.mem_cons, List.not_mem_nil, or_false] at declared
  obtain rfl | rfl := declared
  · cases List.mem_singleton.1 mem
    cases value
  · cases List.mem_singleton.1 mem
    have heap : pointerFirst.memberStruct? (bareMember "heap" "VkPhysicalDeviceB" 0) =
        some "VkPhysicalDeviceB" := by decide +kernel
    cases heap.symm.trans stands
    exact ⟨name.symm, rfl⟩

/-- The walk that starts at the device with the pointer ends in an error, though no struct contains itself. With
the devices declared the other way round it does not. -/
theorem error_without_valueCycle :
    (∃ name, DependencyClosure.compute pointerFirst {} {} = .error name) ∧
      (∃ closure, DependencyClosure.compute valueFirst {} {} = .ok closure) ∧
      ¬∃ struct, TransGen pointerFirst.Contains struct struct := by
  refine ⟨⟨"VkPhysicalDeviceB", by decide +kernel⟩, ⟨emitted, by decide +kernel⟩, ?_⟩
  · intro h
    obtain ⟨struct, cycle⟩ := h
    obtain ⟨b, first, _⟩ := TransGen.head'_iff.1 cycle
    obtain ⟨a, _, last⟩ := TransGen.tail'_iff.1 cycle
    have same := (contains_pointerFirst first).1.symm.trans (contains_pointerFirst last).2
    exact absurd same (by decide)

end CapabilityRegistry.Closure
