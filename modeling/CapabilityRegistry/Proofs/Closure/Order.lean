import CapabilityRegistry.Proofs.Closure.Descent
import Mathlib.Data.List.Nodup

/-!
# The order of emission

What a finished descent has listed. `Descends.mem_order_iff` is the reachability half: the new structs
are those that the leads reach off the path. `Descends.emission` is the ordering half: the list grows by
emission steps, each of which puts a struct behind everything it contains. `mem_structs_iff` and
`topological_structs` are what both say about a closure.
-/

namespace CapabilityRegistry.Closure
open Relation

variable {reg : Registry}

/-! ## Listed structs -/

/-- Listed structs are off the path, and their member types are listed or on the path. -/
structure Settled (reg : Registry) (path order : List String) : Prop where
  off : ∀ x ∈ order, x ∉ path
  closed : ∀ x ∈ order, ∀ y, reg.Composes x y → y ∈ order ∨ y ∈ path

/-- At the start no struct is listed. -/
lemma Settled.nil {path : List String} : Settled reg path [] :=
  ⟨nofun, nofun⟩

/-- What is reached from a listed struct off the path is listed. -/
lemma Settled.mem_of_reaches {path order : List String} {x y : String}
    (settled : Settled reg path order) (mem : x ∈ order) (reaches : reg.ReachesOff path x y) :
    y ∈ order := by
  obtain ⟨_, steps⟩ := reaches
  induction steps with
  | refl => exact mem
  | tail _ step ih => exact (settled.closed _ ih _ step.1).resolve_right step.2

/-- A struct that is not listed may be put on the path. -/
lemma Settled.push {path order : List String} {v : String} (settled : Settled reg path order)
    (new : v ∉ order) : Settled reg (v :: path) order where
  off x mem onPath := by
    cases onPath with
    | head => exact new mem
    | tail _ onPath => exact settled.off x mem onPath
  closed x mem y step := (settled.closed x mem y step).imp_right (List.mem_cons_of_mem v)

/-- Some lead reaches a struct off the path. -/
def LeadsReach (reg : Registry) (path : List String) (ls : List Lead) (u : String) : Prop :=
  ∃ l ∈ ls, ∃ v, l.target? = some v ∧ reg.ReachesOff path v u

/-- Leads reach what the first one reaches, or the others. -/
lemma leadsReach_cons {path : List String} {l : Lead} {ls : List Lead} {u : String} :
    LeadsReach reg path (l :: ls) u ↔
      (∃ v, l.target? = some v ∧ reg.ReachesOff path v u) ∨ LeadsReach reg path ls u := by
  simp only [LeadsReach, List.exists_mem_cons_iff]

/-- A struct reaches itself and what its leads reach without it. -/
lemma reachesOff_iff_leads {path : List String} {v u : String} (off : v ∉ path) :
    reg.ReachesOff path v u ↔ u = v ∨ LeadsReach reg (v :: path) (leads reg v) u := by
  rw [Registry.reachesOff_iff_enter off]
  refine or_congr_right ⟨fun ⟨c, step, reaches⟩ => ?_, fun ⟨l, mem, c, target, reaches⟩ => ?_⟩
  · obtain ⟨l, mem, target⟩ := composes_iff.1 step
    exact ⟨l, mem, c, target, reaches⟩
  · exact ⟨c, composes_iff.2 ⟨l, mem, target⟩, reaches⟩

/-- The struct on top of the path is listed once all that its leads reach is. -/
lemma Settled.pop {path order : List String} {v : String} (settled : Settled reg (v :: path) order)
    (off : v ∉ path) (entered : ∀ u, LeadsReach reg (v :: path) (leads reg v) u → u ∈ order) :
    Settled reg path (order ++ [v]) where
  off x mem onPath := by
    obtain mem | mem := List.mem_append.1 mem
    · exact settled.off x mem (List.mem_cons_of_mem v onPath)
    · cases List.mem_singleton.1 mem
      exact off onPath
  closed x mem y step := by
    have listed : y ∈ order ∨ y ∈ v :: path := by
      obtain mem | mem := List.mem_append.1 mem
      · exact settled.closed x mem y step
      · cases List.mem_singleton.1 mem
        by_cases onPath : y ∈ v :: path
        · exact .inr onPath
        · obtain ⟨l, mem, target⟩ := composes_iff.1 step
          exact .inl (entered y ⟨l, mem, y, target, onPath, .refl⟩)
    simp only [List.mem_cons] at listed
    simp only [List.mem_append, List.mem_singleton]
    tauto

/-- A descent lists, besides what was listed, what its leads reach off the path. -/
theorem Descends.mem_order_iff {path s ls s'} (steps : Descends reg path s ls (.ok s'))
    (settled : Settled reg path s.order) :
    Settled reg path s'.order ∧ ∀ u, u ∈ s'.order ↔ u ∈ s.order ∨ LeadsReach reg path ls u := by
  generalize e : Except.ok s' = r at steps
  induction steps generalizing s' with
  | nil =>
    cases e
    exact ⟨settled, fun u => by simp [LeadsReach]⟩
  | @pass path s l ls r passed _ ih =>
    obtain ⟨settled', mem⟩ := ih (by simpa using settled) e
    refine ⟨settled', fun u => ?_⟩
    -- the lead itself reaches nothing new: its struct is listed already or on the path
    have old : (∃ v, l.target? = some v ∧ reg.ReachesOff path v u) → u ∈ s.order := by
      intro h
      obtain ⟨v, target, reaches⟩ := h
      obtain listed | ⟨onPath, _⟩ := passed v target
      · exact settled.mem_of_reaches listed reaches
      · exact (reaches.1 onPath).elim
    rw [mem u, Survey.foldl_note_order, leadsReach_cons, ← or_assoc, or_iff_left_of_imp old]
  | cycle => cases e
  | fail => cases e
  | @enter path s l ls v inner r target new off stepsIn _ ihIn ih =>
    obtain ⟨settledIn, memIn⟩ := ihIn (by simpa using settled.push new) rfl
    obtain ⟨settled', mem⟩ := ih (settledIn.pop off fun u reach => (memIn u).2 (.inr reach)) e
    refine ⟨settled', fun u => ?_⟩
    have reached : (∃ w, l.target? = some w ∧ reg.ReachesOff path w u) ↔
        u = v ∨ LeadsReach reg (v :: path) (leads reg v) u := by
      simp only [target, Option.some.injEq, exists_eq_left', reachesOff_iff_leads off]
    rw [mem u, Survey.emit_order, List.mem_append, memIn u, List.mem_singleton,
      Survey.foldl_note_order, leadsReach_cons, reached]
    tauto

/-- After the descent into a struct, and with it listed, what it reaches is listed besides. -/
lemma Descends.emit_order {path s v inner} (steps : Descends reg (v :: path) s (leads reg v) (.ok inner))
    (pushed : Settled reg (v :: path) s.order) (off : v ∉ path) :
    Settled reg path (inner.emit v).order ∧
      ∀ u, u ∈ (inner.emit v).order ↔ u ∈ s.order ∨ reg.ReachesOff path v u := by
  obtain ⟨settled, mem⟩ := steps.mem_order_iff pushed
  refine ⟨settled.pop off fun u reach => (mem u).2 (.inr reach), fun u => ?_⟩
  rw [Survey.emit_order, List.mem_append, mem u, List.mem_singleton, reachesOff_iff_leads off]
  tauto

/-- A descent keeps what was listed. -/
lemma Descends.subset {path s ls s'} (steps : Descends reg path s ls (.ok s'))
    (settled : Settled reg path s.order) : s.order ⊆ s'.order :=
  fun u mem => ((steps.mem_order_iff settled).2 u).2 (.inl mem)

/-! ## Emission -/

/-- Orders that grow at the end, by structs whose member types are listed before them; only a pointer
to a struct that leads back to its owner may be ahead of it. -/
inductive Emission (reg : Registry) : List String → Prop where
  | nil :
    Emission reg []
  | snoc {order v} :
    Emission reg order →
    v ∉ order →
    (∀ m w, reg.HasMember v m w →
      w ∈ order ∨ m.isPointer = true ∧ TransGen reg.Composes w v) →
    Emission reg (order ++ [v])

/-- No struct is listed twice. -/
lemma Emission.nodup {order : List String} (emission : Emission reg order) : order.Nodup := by
  induction emission with
  | nil => exact List.nodup_nil
  | snoc _ new _ ih => exact List.nodup_append_comm.1 (List.nodup_cons.2 ⟨new, ih⟩)

/-- A member type stands before its owner, or leads back to it behind a pointer. -/
lemma Emission.before {order : List String} (emission : Emission reg order) {i : Nat}
    {owner struct : String} {m : Member} (place : order[i]? = some owner)
    (member : reg.HasMember owner m struct) :
    (∃ j < i, order[j]? = some struct) ∨
      m.isPointer = true ∧ TransGen reg.Composes struct owner := by
  induction emission with
  | nil => cases place
  | @snoc order v _ _ placed ih =>
    obtain ⟨bound, e⟩ := List.getElem?_eq_some_iff.1 place
    by_cases inside : i < order.length
    · rw [List.getElem?_append_left inside] at place
      refine (ih place).imp_left fun ⟨j, less, place'⟩ => ⟨j, less, ?_⟩
      rwa [List.getElem?_append_left (by omega)]
    · have last : i = order.length := by simp at bound; omega
      subst last
      rw [List.getElem?_concat_length, Option.some.injEq] at place
      subst place
      refine (placed m struct member).imp_left fun listed => ?_
      obtain ⟨j, less, e'⟩ := List.mem_iff_getElem.1 listed
      exact ⟨j, less, by rw [List.getElem?_append_left less, List.getElem?_eq_getElem less, e']⟩

/-- Every struct on the path leads to the structs that the leads reach. -/
def OnWay (reg : Registry) (path : List String) (ls : List Lead) : Prop :=
  ∀ l ∈ ls, ∀ v, l.target? = some v → ∀ p ∈ path, TransGen reg.Composes p v

/-- What holds of all leads holds of those that are left. -/
lemma OnWay.tail {path : List String} {l : Lead} {ls : List Lead} (way : OnWay reg path (l :: ls)) :
    OnWay reg path ls :=
  fun l' mem => way l' (List.mem_cons_of_mem l mem)

/-- The path to a struct, with the struct on top, leads to the structs of its members. -/
lemma OnWay.push {path : List String} {l : Lead} {ls : List Lead} {v : String}
    (way : OnWay reg path (l :: ls)) (target : l.target? = some v) :
    OnWay reg (v :: path) (leads reg v) := by
  intro l' mem w target' p onPath
  have step : reg.Composes v w := composes_iff.2 ⟨l', mem, target'⟩
  cases onPath with
  | head => exact .single step
  | tail _ onPath => exact (way l List.mem_cons_self v target p onPath).tail step

/-- A descent keeps the order an emission, and a lead that it has passed reaches a listed struct or,
by pointer, one on the path. -/
theorem Descends.emission {path s ls s'} (steps : Descends reg path s ls (.ok s'))
    (settled : Settled reg path s.order) (way : OnWay reg path ls) (emission : Emission reg s.order) :
    Emission reg s'.order ∧ ∀ l ∈ ls, ∀ v, l.target? = some v →
      v ∈ s'.order ∨ v ∈ path ∧ l.byPointer = true := by
  generalize e : Except.ok s' = r at steps
  induction steps generalizing s' with
  | nil =>
    cases e
    exact ⟨emission, nofun⟩
  | @pass path s l ls r passed rest ih =>
    subst e
    have settled' : Settled reg path (l.names.foldl (Survey.note reg) s).order := by simpa using settled
    obtain ⟨emission', done⟩ := ih settled' way.tail (by simpa using emission) rfl
    refine ⟨emission', fun l' mem v target => ?_⟩
    cases mem with
    | head => exact (passed v target).imp_left fun listed => rest.subset settled' (by simpa using listed)
    | tail _ mem => exact done l' mem v target
  | cycle => cases e
  | fail => cases e
  | @enter path s l ls v inner r target new off stepsIn rest ihIn ih =>
    subst e
    have pushed : Settled reg (v :: path) (l.names.foldl (Survey.note reg) s).order := by
      simpa using settled.push new
    obtain ⟨emissionIn, doneIn⟩ := ihIn pushed (way.push target) (by simpa using emission) rfl
    obtain ⟨popped, _⟩ := stepsIn.emit_order pushed off
    have placed : ∀ m w, reg.HasMember v m w →
        w ∈ inner.order ∨ m.isPointer = true ∧ TransGen reg.Composes w v := by
      intro m w member
      obtain ⟨l', mem, target', same⟩ :=
        (exists_lead_iff (p := fun b => b = m.isPointer)).2 ⟨m, member, rfl⟩
      refine (doneIn l' mem w target').imp_right fun ⟨onPath, pointer⟩ => ⟨same ▸ pointer, ?_⟩
      cases onPath with
      | head => exact .single ⟨m, member⟩
      | tail _ onPath => exact way l List.mem_cons_self v target w onPath
    have new' : v ∉ inner.order := fun mem => (stepsIn.mem_order_iff pushed).1.off v mem List.mem_cons_self
    obtain ⟨emission', done⟩ := ih popped way.tail (.snoc emissionIn new' placed) rfl
    refine ⟨emission', fun l' mem w target' => ?_⟩
    cases mem with
    | head =>
      cases target.symm.trans target'
      exact .inl (rest.subset popped (by simp))
    | tail _ mem => exact done l' mem w target'

/-! ## Closures -/

section closure
variable {disabled : DisabledSet} {rules : Rules} {closure : DependencyClosure}

/-- The structs of a closure, in the order of emission. -/
def structs (closure : DependencyClosure) : List String :=
  closure.order.map (·.name)

/-- The structs of a closure are those that the survey lists. -/
lemma structs_toClosure (s : Survey) : structs s.toClosure = s.order := by
  simp [structs, Survey.toClosure, Function.comp_def]

/-- What the leads of the roots reach is reachable. -/
lemma leadsReach_rootLeads {struct : String} :
    LeadsReach reg [] (rootLeads reg disabled rules) struct ↔ reg.Reachable disabled rules struct := by
  simp only [LeadsReach, rootLeads, rootLead, List.mem_map, Registry.reachesOff_nil,
    Registry.Reachable, Option.isSome_iff_exists]
  constructor
  · intro h
    obtain ⟨_, ⟨root, mem, rfl⟩, v, target, steps⟩ := h
    obtain ⟨d, found, rfl⟩ := Option.map_eq_some_iff.1 target
    exact ⟨root, mem, ⟨d, found⟩, steps⟩
  · intro h
    obtain ⟨root, mem, ⟨d, found⟩, steps⟩ := h
    exact ⟨_, ⟨root, mem, rfl⟩, root, by simp [found], steps⟩

/-- A closure lists the structs that are reachable from its roots. -/
theorem mem_structs_iff (done : DependencyClosure.compute reg disabled rules = .ok closure)
    (struct : String) : struct ∈ structs closure ↔ reg.Reachable disabled rules struct := by
  obtain ⟨s, steps, rfl⟩ := descends_of_ok done
  rw [structs_toClosure, (steps.mem_order_iff Settled.nil).2 struct, leadsReach_rootLeads]
  simp

/-- A closure is built by emission steps. -/
theorem emission_structs (done : DependencyClosure.compute reg disabled rules = .ok closure) :
    Emission reg (structs closure) := by
  obtain ⟨s, steps, rfl⟩ := descends_of_ok done
  rw [structs_toClosure]
  exact (steps.emission Settled.nil (fun _ _ _ _ => nofun) .nil).1

/-- Orders in which every struct stands once and behind the structs of its members. A struct that a
member holds by value stands before it; one that a member points to stands before it or leads back to
it. -/
structure Topological (reg : Registry) (order : List String) : Prop where
  nodup : order.Nodup
  listed : ∀ owner m struct, owner ∈ order → reg.HasMember owner m struct → struct ∈ order
  byValue : ∀ (i : Nat) owner m struct, order[i]? = some owner → reg.HasMember owner m struct →
    m.isPointer = false → ∃ j < i, order[j]? = some struct
  byPointer : ∀ (i : Nat) owner m struct, order[i]? = some owner → reg.HasMember owner m struct →
    m.isPointer = true → (∃ j < i, order[j]? = some struct) ∨ TransGen reg.Composes struct owner

/-- A struct that is held by value is listed before its holder. -/
lemma Emission.byValue {order : List String} (emission : Emission reg order) {i : Nat}
    {owner struct : String} {m : Member} (place : order[i]? = some owner)
    (member : reg.HasMember owner m struct) (value : m.isPointer = false) :
    ∃ j < i, order[j]? = some struct := by
  refine (emission.before place member).resolve_right fun ⟨pointer, _⟩ => ?_
  rw [value] at pointer
  cases pointer

/-- The structs of a closure are in topological order. -/
theorem topological_structs (done : DependencyClosure.compute reg disabled rules = .ok closure) :
    Topological reg (structs closure) := by
  have emission := emission_structs done
  refine ⟨emission.nodup, fun owner m struct mem member => ?_, ?_, ?_⟩
  · obtain ⟨root, start, declared, steps⟩ := (mem_structs_iff done owner).1 mem
    exact (mem_structs_iff done struct).2 ⟨root, start, declared, steps.tail ⟨m, member⟩⟩
  · exact fun i owner m struct place member value => emission.byValue place member value
  · exact fun i owner m struct place member _ => (emission.before place member).imp_right And.right

end closure

/-! ## A back edge behind an alias -/

/-- A member without qualifiers, arrays and lengths. -/
def bareMember (name typeName : String) (pointerDepth : UInt8) : Member where
  name := name
  typeName := typeName
  cType := typeName
  isConst := false
  pointerDepth := pointerDepth

/-- A device that holds a heap by value, under an alias of the heap; the heap points back. -/
def backEdge : Registry where
  structs := [
    { name := "VkPhysicalDeviceA", members := [bareMember "heap" "VkHeapKHR" 0] },
    { name := "VkHeapKHR", aliasOf := some "VkHeap", members := [] },
    { name := "VkHeap", members := [bareMember "pDevice" "VkPhysicalDeviceA" 1] }]

/-- A pointer back to the device, through an alias, leaves the heap in front of it. -/
theorem topological_structs_backEdge :
    DependencyClosure.compute backEdge {} {} =
        .ok { order := [⟨"VkHeap", true⟩, ⟨"VkPhysicalDeviceA", true⟩], aliases := ["VkHeapKHR"] } ∧
      Topological backEdge ["VkHeap", "VkPhysicalDeviceA"] := by
  have done : DependencyClosure.compute backEdge {} {} =
      .ok { order := [⟨"VkHeap", true⟩, ⟨"VkPhysicalDeviceA", true⟩], aliases := ["VkHeapKHR"] } := by
    decide +kernel
  exact ⟨done, topological_structs done⟩

end CapabilityRegistry.Closure
