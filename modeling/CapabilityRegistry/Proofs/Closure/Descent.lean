import CapabilityRegistry.Proofs.Composition
import Mathlib.Tactic.Push

/-!
# The descent through structs

The walk that computes the closure, as a relation. A `Lead` is anything that the walk follows: a member
of a struct, or one of the names from which it starts. `Descends` has one rule for each thing that can
happen to a lead, so that a fact about all walks is one induction over it. `descends_follow` and
`descends_roots` say that the walk takes these steps, `descends_of_ok` and `descends_of_error` that the
closure is read off them.
-/

namespace CapabilityRegistry.Closure

/-- Something that the walk follows. -/
structure Lead where
  /-- The type names met on the way to the struct. -/
  names : List String
  /-- The struct that is reached. -/
  target? : Option String
  byPointer : Bool

variable (reg : Registry)

/-- The lead that a member is. -/
def memberLead (m : Member) : Lead where
  names := reg.typeTrail m.typeName
  target? := reg.memberStruct? m
  byPointer := m.isPointer

/-- The leads of a struct, one for each member. -/
def leads (name : String) : List Lead :=
  ((reg.structDecl? name).map (·.members.map (memberLead reg))).getD []

/-- The lead of a name from which the walk starts; nothing leads back to it by value. -/
def rootLead (name : String) : Lead where
  names := []
  target? := (reg.structDecl? name).map fun _ => name
  byPointer := true

/-- Following leads, with the structs being followed on the path. -/
inductive Descends : List String → Survey → List Lead → Except String Survey → Prop where
  | nil {path s} :
    Descends path s [] (.ok s)
  | pass {path s l ls r} :
    (∀ v, l.target? = some v → v ∈ s.order ∨ v ∈ path ∧ l.byPointer = true) →
    Descends path (l.names.foldl (Survey.note reg) s) ls r →
    Descends path s (l :: ls) r
  | cycle {path s l ls v} :
    l.target? = some v →
    v ∉ s.order →
    v ∈ path →
    l.byPointer = false →
    Descends path s (l :: ls) (.error v)
  | fail {path s l ls v e} :
    l.target? = some v →
    v ∉ s.order →
    v ∉ path →
    Descends (v :: path) (l.names.foldl (Survey.note reg) s) (leads reg v) (.error e) →
    Descends path s (l :: ls) (.error e)
  | enter {path s l ls v inner r} :
    l.target? = some v →
    v ∉ s.order →
    v ∉ path →
    Descends (v :: path) (l.names.foldl (Survey.note reg) s) (leads reg v) (.ok inner) →
    Descends path (inner.emit v) ls r →
    Descends path s (l :: ls) r

variable {reg}

/-- Noting a type lists no struct. -/
@[simp]
lemma Survey.note_order {s : Survey} {name : String} : (s.note reg name).order = s.order := by
  unfold Survey.note
  split <;> rfl

/-- Noting several types lists no struct. -/
@[simp]
lemma Survey.foldl_note_order {s : Survey} {names : List String} :
    (names.foldl (Survey.note reg) s).order = s.order := by
  induction names generalizing s with
  | nil => rfl
  | cons name names ih => rw [List.foldl_cons, ih, Survey.note_order]

/-- A struct is listed at the end. -/
@[simp]
lemma Survey.emit_order {s : Survey} {name : String} : (s.emit name).order = s.order ++ [name] :=
  rfl

/-- The leads of a declared struct are those of its members. -/
lemma leads_of_structDecl? {name : String} {d : StructDecl} (found : reg.structDecl? name = some d) :
    leads reg name = d.members.map (memberLead reg) := by
  simp [leads, found]

/-- A lead of a struct that reaches another one is a member with that struct as its type. -/
lemma exists_lead_iff {owner struct : String} {p : Bool → Prop} :
    (∃ l ∈ leads reg owner, l.target? = some struct ∧ p l.byPointer) ↔
      ∃ m, reg.HasMember owner m struct ∧ p m.isPointer := by
  refine ⟨fun ⟨l, mem, target, h⟩ => ?_, fun ⟨m, ⟨d, found, mem, stands⟩, h⟩ => ?_⟩
  · cases found : reg.structDecl? owner with
    | none => simp [leads, found] at mem
    | some d =>
      rw [leads_of_structDecl? found] at mem
      obtain ⟨m, member, rfl⟩ := List.mem_map.1 mem
      exact ⟨m, ⟨d, found, member, Registry.memberStruct?_eq_some_iff.1 target⟩, h⟩
  · refine ⟨memberLead reg m, ?_, Registry.memberStruct?_eq_some_iff.2 stands, h⟩
    rw [leads_of_structDecl? found]
    exact List.mem_map_of_mem mem

/-- A struct is composed of those where its leads go. -/
lemma composes_iff {owner struct : String} :
    reg.Composes owner struct ↔ ∃ l ∈ leads reg owner, l.target? = some struct := by
  have h : (∃ l ∈ leads reg owner, l.target? = some struct ∧ True) ↔
      ∃ m, reg.HasMember owner m struct ∧ True := exists_lead_iff (p := fun _ => True)
  simpa [Registry.Composes] using h.symm

section follow
variable {path : List String} {enter : Entering reg path} {s : Survey} {m : Member}

/-- A member that leads to no struct, to a listed one or, by pointer, back onto the path is passed. -/
lemma followMember_pass
    (settled : ∀ v, reg.memberStruct? m = some v → v ∈ s.order ∨ v ∈ path ∧ m.isPointer = true) :
    followMember reg path enter s m = .ok ((reg.typeTrail m.typeName).foldl (Survey.note reg) s) := by
  rw [followMember]
  split
  next => rfl
  next v target =>
    obtain listed | ⟨onPath, pointer⟩ := settled v target
    · have listed' : v ∈ ((reg.typeTrail m.typeName).foldl (Survey.note reg) s).order := by
        simpa using listed
      rw [if_pos listed']
    · rw [dif_pos onPath, if_pos pointer, ite_self]

/-- A member by value that leads back onto the path ends the walk. -/
lemma followMember_cycle {v : String} (target : reg.memberStruct? m = some v) (new : v ∉ s.order)
    (onPath : v ∈ path) (value : m.isPointer = false) :
    followMember reg path enter s m = .error v := by
  rw [followMember]
  split
  next missing => cases target.symm.trans missing
  next w target' =>
    cases target.symm.trans target'
    have new' : v ∉ ((reg.typeTrail m.typeName).foldl (Survey.note reg) s).order := by simpa using new
    rw [if_neg new', dif_pos onPath, value, if_neg Bool.false_ne_true]

/-- A member that leads to a struct not met before is followed into that struct. -/
lemma followMember_enter {v : String} {d : StructDecl} (target : reg.memberStruct? m = some v)
    (new : v ∉ s.order) (off : v ∉ path) (found : reg.structDecl? v = some d) :
    followMember reg path enter s m = do
      return (← enter v d found off ((reg.typeTrail m.typeName).foldl (Survey.note reg) s)).emit v := by
  rw [followMember]
  split
  next missing => cases target.symm.trans missing
  next w target' =>
    cases target.symm.trans target'
    have new' : v ∉ ((reg.typeTrail m.typeName).foldl (Survey.note reg) s).order := by simpa using new
    rw [if_neg new', dif_neg off]
    split
    next missing => cases found.symm.trans missing
    next d' found' =>
      cases found.symm.trans found'
      rfl

end follow

/-- The walk over members takes the steps of the descent. -/
theorem descends_follow (reg : Registry) (path : List String) (s : Survey) (ms : List Member) :
    Descends reg path s (ms.map (memberLead reg)) (follow reg path s ms) := by
  -- the outer induction enters structs, the inner one goes along their members
  induction path, s, ms using follow.induct reg with
  | case1 path s ms ihEnter =>
    rw [follow]
    induction ms generalizing s with
    | nil => exact .nil
    | cons m ms ih =>
      rw [List.foldlM_cons, List.map_cons]
      by_cases settled : ∀ v, reg.memberStruct? m = some v → v ∈ s.order ∨ v ∈ path ∧ m.isPointer = true
      · rw [followMember_pass settled]
        exact .pass settled (ih _)
      push Not at settled
      obtain ⟨v, target, new, value⟩ := settled
      by_cases onPath : v ∈ path
      · have value' : m.isPointer = false := by simpa using value onPath
        rw [followMember_cycle target new onPath value']
        exact .cycle target new onPath value'
      obtain ⟨d, found⟩ := Registry.structDecl?_of_memberStruct? target
      have inner := ihEnter v d found onPath ((reg.typeTrail m.typeName).foldl (Survey.note reg) s)
      rw [← leads_of_structDecl? found] at inner
      rw [followMember_enter target new onPath found]
      cases result : follow reg (v :: path) ((reg.typeTrail m.typeName).foldl (Survey.note reg) s)
          d.members with
      | error e =>
        rw [result] at inner
        exact .fail target new onPath inner
      | ok s' =>
        rw [result] at inner
        exact .enter target new onPath inner (ih _)

/-- The members of a struct are the leads of the struct. -/
lemma descends_leads (path : List String) (s : Survey) {name : String} {d : StructDecl}
    (found : reg.structDecl? name = some d) :
    Descends reg path s (leads reg name) (follow reg path s d.members) := by
  rw [leads_of_structDecl? found]
  exact descends_follow reg path s d.members

/-- The walk from a list of names takes the steps of the descent. -/
theorem descends_roots (reg : Registry) (s : Survey) (names : List String) :
    Descends reg [] s (names.map (rootLead reg)) (names.foldlM (visit reg) s) := by
  induction names generalizing s with
  | nil => exact .nil
  | cons name names ih =>
    rw [List.foldlM_cons, List.map_cons, visit]
    split
    next listed =>
      refine .pass (fun v target => ?_) (ih s)
      obtain ⟨d, _, rfl⟩ := Option.map_eq_some_iff.1 target
      exact .inl listed
    next new =>
      split
      next missing =>
        refine .pass (fun v target => ?_) (ih s)
        simp [rootLead, missing] at target
      next d found =>
        have target : (rootLead reg name).target? = some name := by simp [rootLead, found]
        have inner := descends_leads [name] s found
        cases result : follow reg [name] s d.members with
        | error e =>
          rw [result] at inner
          exact .fail target new List.not_mem_nil inner
        | ok s' =>
          rw [result] at inner
          exact .enter target new List.not_mem_nil inner (ih (s'.emit name))

/-- The leads from which the closure starts. -/
def rootLeads (reg : Registry) (disabled : DisabledSet) (rules : Rules) : List Lead :=
  (roots reg disabled rules).map (rootLead reg)

/-- A closure is what a finished descent from the roots has found. -/
theorem descends_of_ok {disabled : DisabledSet} {rules : Rules} {closure : DependencyClosure}
    (done : DependencyClosure.compute reg disabled rules = .ok closure) :
    ∃ s, Descends reg [] {} (rootLeads reg disabled rules) (.ok s) ∧ s.toClosure = closure := by
  have steps := descends_roots reg {} (roots reg disabled rules)
  unfold DependencyClosure.compute at done
  cases result : (roots reg disabled rules).foldlM (visit reg) {} with
  | error e =>
    rw [result] at done
    cases done
  | ok s =>
    rw [result] at done steps
    cases done
    exact ⟨s, steps, rfl⟩

/-- A closure fails where the descent from the roots does. -/
theorem descends_of_error {disabled : DisabledSet} {rules : Rules} {name : String}
    (failed : DependencyClosure.compute reg disabled rules = .error name) :
    Descends reg [] {} (rootLeads reg disabled rules) (.error name) := by
  have steps := descends_roots reg {} (roots reg disabled rules)
  unfold DependencyClosure.compute at failed
  cases result : (roots reg disabled rules).foldlM (visit reg) {} with
  | error e =>
    rw [result] at failed steps
    cases failed
    exact steps
  | ok s =>
    rw [result] at failed
    cases failed

end CapabilityRegistry.Closure
