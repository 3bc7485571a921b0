import CapabilityRegistry.Proofs.Closure.Order
import CapabilityRegistry.Proofs.Declarations
import CapabilityRegistry.Proofs.Disabled

/-!
# The contents of a closure

A closure holds what is reachable, and nothing else. `Descends.grows` is the step: a finished descent has
noted the type names of its leads and of the structs that it has listed. Read off a whole walk, this is
`compute_exact`: the lists of a closure are the reachable structs and the type names that their members
meet, each once. The walk goes by the order of the declarations, but what it finds does not, as long as
the same declaration of each name comes first (`contents_of_compute`).
-/

namespace CapabilityRegistry
open Relation

namespace Registry
variable (reg : Registry) (disabled : DisabledSet) (rules : Rules)

/-- The type of some member of `owner`, followed along alias declarations, meets a name. -/
def Mentions (owner name : String) : Prop :=
  ∃ d m, reg.structDecl? owner = some d ∧ m ∈ d.members ∧ Walk.Hops reg.aliasStep? m.typeName name

/-- A name of a kind that a member of a reachable struct meets. -/
def Uses (kind : TypeKind) (name : String) : Prop :=
  reg.classify name = .declared kind ∧
    ∃ owner, reg.Reachable disabled rules owner ∧ reg.Mentions owner name

variable {reg}

/-- A name counts as a struct where it is classified as one. -/
lemma isStruct_iff {name : String} :
    reg.isStruct name = true ↔ reg.classify name = .declared .struct := by
  simp [isStruct]

/-- A struct is composed of those that its members meet. -/
lemma composes_iff_mentions {owner struct : String} :
    reg.Composes owner struct ↔
      reg.classify struct = .declared .struct ∧ reg.Mentions owner struct := by
  constructor
  · intro h
    obtain ⟨m, d, found, mem, kind, hops⟩ := h
    exact ⟨isStruct_iff.1 kind, d, m, found, mem, hops⟩
  · intro h
    obtain ⟨kind, d, m, found, mem, hops⟩ := h
    exact ⟨m, d, found, mem, isStruct_iff.2 kind, hops⟩

end Registry

namespace Closure
variable {reg : Registry}

/-! ## Noted names -/

/-- A name is added that was not there. -/
lemma mem_addNew {names : List String} {name x : String} :
    x ∈ addNew names name ↔ x ∈ names ∨ x = name := by
  unfold addNew
  split
  next old =>
    refine ⟨.inl, fun h => ?_⟩
    obtain mem | rfl := h
    · exact mem
    · exact old
  next => rw [List.mem_append, List.mem_singleton]

/-- No name is there twice then. -/
lemma nodup_addNew {names : List String} {name : String} (nodup : names.Nodup) :
    (addNew names name).Nodup := by
  unfold addNew
  split
  next => exact nodup
  next new => exact List.nodup_append_comm.1 (List.nodup_cons.2 ⟨new, nodup⟩)

namespace Survey

/-- The names of a kind that a survey has noted. -/
def noted (s : Survey) : TypeKind → List String
  | .struct => s.dependencies
  | .enum => s.enums
  | .handle => s.handles
  | .aliased => s.aliases
  | .primitive => s.baseTypes

/-- A name is noted under its kind. -/
lemma noted_note {s : Survey} {name : String} {kind : TypeKind} :
    (s.note reg name).noted kind =
      if reg.classify name = .declared kind then addNew (s.noted kind) name else s.noted kind := by
  unfold note
  cases reg.classify name with
  | scalar => rfl
  | unknown => rfl
  | declared kind' => cases kind' <;> cases kind <;> rfl

/-- A struct that is listed is not noted for that. -/
@[simp]
lemma noted_emit {s : Survey} {name : String} {kind : TypeKind} :
    (s.emit name).noted kind = s.noted kind := by
  cases kind <;> rfl

/-- A name is noted among those of its kind only. -/
lemma mem_noted_note {s : Survey} {name x : String} {kind : TypeKind} :
    x ∈ (s.note reg name).noted kind ↔
      x ∈ s.noted kind ∨ reg.classify x = .declared kind ∧ x = name := by
  rw [noted_note]
  split
  next fits =>
    rw [mem_addNew]
    refine or_congr_right ⟨fun same => ⟨same ▸ fits, same⟩, And.right⟩
  next unfit =>
    refine ⟨.inl, fun h => h.resolve_right fun ⟨fits, same⟩ => unfit (same ▸ fits)⟩

/-- Several names are noted among those of their kinds only. -/
lemma mem_noted_foldl {s : Survey} {names : List String} {x : String} {kind : TypeKind} :
    x ∈ (names.foldl (note reg) s).noted kind ↔
      x ∈ s.noted kind ∨ reg.classify x = .declared kind ∧ x ∈ names := by
  induction names generalizing s with
  | nil => simp
  | cons name names ih =>
    rw [List.foldl_cons, ih, mem_noted_note, List.mem_cons, or_assoc, ← and_or_left]

/-- However many names are noted, none is there twice. -/
lemma nodup_noted_foldl {s : Survey} {names : List String} {kind : TypeKind}
    (nodup : (s.noted kind).Nodup) : ((names.foldl (note reg) s).noted kind).Nodup := by
  induction names generalizing s with
  | nil => exact nodup
  | cons name names ih =>
    apply ih
    rw [noted_note]
    split
    · exact nodup_addNew nodup
    · exact nodup

end Survey

/-- Some lead meets a name. -/
def Meets (ls : List Lead) (name : String) : Prop :=
  ∃ l ∈ ls, name ∈ l.names

/-- Leads meet what the first ones or the others meet. -/
lemma meets_append {ls ls' : List Lead} {name : String} :
    Meets (ls ++ ls') name ↔ Meets ls name ∨ Meets ls' name := by
  simp only [Meets, List.mem_append, or_and_right, exists_or]

/-- Leads meet the names of the first one, or what the others meet. -/
lemma meets_cons {l : Lead} {ls : List Lead} {name : String} :
    Meets (l :: ls) name ↔ name ∈ l.names ∨ Meets ls name := by
  simp only [Meets, List.exists_mem_cons_iff]

/-- The leads of several structs meet what those of one of them meet. -/
lemma meets_flatMap {names : List String} {name : String} :
    Meets (names.flatMap (leads reg)) name ↔ ∃ owner ∈ names, Meets (leads reg owner) name := by
  simp only [Meets, List.mem_flatMap]
  constructor
  · intro h
    obtain ⟨l, ⟨owner, mem, mem'⟩, met⟩ := h
    exact ⟨owner, mem, l, mem', met⟩
  · intro h
    obtain ⟨owner, mem, l, mem', met⟩ := h
    exact ⟨l, ⟨owner, mem, mem'⟩, met⟩

/-- The leads of a struct meet what its members meet. -/
lemma meets_leads {owner name : String} : Meets (leads reg owner) name ↔ reg.Mentions owner name := by
  constructor
  · intro h
    obtain ⟨l, mem, met⟩ := h
    cases found : reg.structDecl? owner with
    | none => simp [leads, found] at mem
    | some d =>
      rw [leads_of_structDecl? found] at mem
      obtain ⟨m, member, rfl⟩ := List.mem_map.1 mem
      exact ⟨d, m, found, member, Walk.mem_trail_iff.1 met⟩
  · intro h
    obtain ⟨d, m, found, member, hops⟩ := h
    refine ⟨memberLead reg m, ?_, Walk.mem_trail_iff.2 hops⟩
    rw [leads_of_structDecl? found]
    exact List.mem_map_of_mem member

/-- A descent lists new structs at the end, and notes what its leads and those of the new structs meet. -/
theorem Descends.grows {path s ls s'} (steps : Descends reg path s ls (.ok s')) :
    ∃ new, s'.order = s.order ++ new ∧ ∀ kind x, x ∈ s'.noted kind ↔
      x ∈ s.noted kind ∨ reg.classify x = .declared kind ∧ Meets (ls ++ new.flatMap (leads reg)) x := by
  generalize e : Except.ok s' = r at steps
  induction steps generalizing s' with
  | nil =>
    cases e
    exact ⟨[], by simp, fun kind x => by simp [Meets]⟩
  | @pass path s l ls r passed _ ih =>
    obtain ⟨new, order, noted⟩ := ih e
    refine ⟨new, by simpa using order, fun kind x => ?_⟩
    rw [noted, Survey.mem_noted_foldl, List.cons_append, meets_cons]
    tauto
  | cycle => cases e
  | fail => cases e
  | @enter path s l ls v inner r target new off _ _ ihIn ih =>
    -- the structs met below are listed before the entered one, and then the others
    obtain ⟨below, orderIn, notedIn⟩ := ihIn rfl
    obtain ⟨later, order, noted⟩ := ih e
    refine ⟨below ++ v :: later, ?_, fun kind x => ?_⟩
    · rw [order, Survey.emit_order, orderIn, Survey.foldl_note_order]
      simp only [List.append_assoc, List.singleton_append]
    · rw [noted, Survey.noted_emit, notedIn, Survey.mem_noted_foldl]
      simp only [List.flatMap_append, List.flatMap_cons, List.cons_append, meets_append, meets_cons]
      tauto

/-- A descent notes no name twice. -/
lemma Descends.nodup_noted {path s ls s'} (steps : Descends reg path s ls (.ok s')) {kind : TypeKind}
    (nodup : (s.noted kind).Nodup) : (s'.noted kind).Nodup := by
  generalize e : Except.ok s' = r at steps
  induction steps generalizing s' with
  | nil =>
    cases e
    exact nodup
  | pass _ _ ih => exact ih (Survey.nodup_noted_foldl nodup) e
  | cycle => cases e
  | fail => cases e
  | enter _ _ _ _ _ ihIn ih =>
    have inner := ihIn (Survey.nodup_noted_foldl nodup) rfl
    exact ih (by rwa [Survey.noted_emit]) e

/-! ## Exact contents -/

/-- A list holds the names with a property, each once. -/
structure Collects (names : List String) (p : String → Prop) : Prop where
  nodup : names.Nodup
  mem : ∀ name, name ∈ names ↔ p name

/-- A closure holds the reachable structs and what their members meet. A struct counts as a dependency
when some member of a struct of the closure stands for it. -/
structure Exact (reg : Registry) (disabled : DisabledSet) (rules : Rules)
    (closure : DependencyClosure) : Prop where
  structs : Collects (structs closure) (reg.Reachable disabled rules)
  enums : Collects closure.enums (reg.Uses disabled rules .enum)
  handles : Collects closure.handles (reg.Uses disabled rules .handle)
  aliases : Collects closure.aliases (reg.Uses disabled rules .aliased)
  baseTypes : Collects closure.baseTypes (reg.Uses disabled rules .primitive)
  dependency : ∀ e ∈ closure.order,
    e.isDependency = true ↔ ∃ owner ∈ Closure.structs closure, reg.Composes owner e.name

variable {disabled : DisabledSet} {rules : Rules} {closure : DependencyClosure}

/-- A finished walk from the roots has noted what the listed structs meet. -/
lemma mem_noted_iff {s : Survey} (steps : Descends reg [] {} (rootLeads reg disabled rules) (.ok s))
    {kind : TypeKind} {x : String} :
    x ∈ s.noted kind ↔
      reg.classify x = .declared kind ∧ ∃ owner ∈ s.order, reg.Mentions owner x := by
  obtain ⟨new, order, noted⟩ := steps.grows
  have same : s.order = new := order
  have none : ¬x ∈ Survey.noted {} kind := by cases kind <;> exact List.not_mem_nil
  -- the walk starts at the roots without following a member to them
  have unmet : ¬Meets (rootLeads reg disabled rules) x := by
    intro h
    obtain ⟨l, mem, met⟩ := h
    obtain ⟨root, _, rfl⟩ := List.mem_map.1 mem
    cases met
  rw [noted, or_iff_right none, meets_append, or_iff_right unmet, meets_flatMap, ← same]
  simp only [meets_leads]

/-- The contents of a closure. -/
theorem compute_exact (done : DependencyClosure.compute reg disabled rules = .ok closure) :
    Exact reg disabled rules closure := by
  have listed := mem_structs_iff done
  have nodup := (emission_structs done).nodup
  obtain ⟨s, steps, rfl⟩ := descends_of_ok done
  rw [structs_toClosure] at nodup
  simp only [structs_toClosure] at listed
  have collects (kind : TypeKind) : Collects (s.noted kind) (reg.Uses disabled rules kind) := by
    refine ⟨steps.nodup_noted (by cases kind <;> exact List.nodup_nil), fun name => ?_⟩
    rw [mem_noted_iff steps]
    simp only [listed, Registry.Uses]
  refine ⟨⟨?_, ?_⟩, collects .enum, collects .handle, collects .aliased, collects .primitive, ?_⟩
  · rwa [structs_toClosure]
  · rwa [structs_toClosure]
  · intro e mem
    obtain ⟨name, _, rfl⟩ := List.mem_map.1 mem
    have noted : name ∈ s.noted .struct ↔ reg.classify name = .declared .struct ∧
        ∃ owner ∈ s.order, reg.Mentions owner name := mem_noted_iff steps
    simp only [structs_toClosure, Registry.composes_iff_mentions, List.contains_iff_mem]
    apply noted.trans
    constructor
    · intro h
      obtain ⟨kind, owner, mem, mentions⟩ := h
      exact ⟨owner, mem, kind, mentions⟩
    · intro h
      obtain ⟨owner, mem, kind, mentions⟩ := h
      exact ⟨kind, owner, mem, mentions⟩

/-- The entries of a closure are the reachable structs, each with the flag that it must have. -/
lemma Exact.mem_order_iff (exact' : Exact reg disabled rules closure) {e : ClosureEntry} :
    e ∈ closure.order ↔ reg.Reachable disabled rules e.name ∧ (e.isDependency = true ↔
      ∃ owner, reg.Reachable disabled rules owner ∧ reg.Composes owner e.name) := by
  have flag : ∀ e ∈ closure.order, e.isDependency = true ↔
      ∃ owner, reg.Reachable disabled rules owner ∧ reg.Composes owner e.name := by
    simpa only [exact'.structs.mem] using exact'.dependency
  constructor
  · intro mem
    exact ⟨(exact'.structs.mem e.name).1 (List.mem_map_of_mem mem), flag e mem⟩
  · intro h
    obtain ⟨reachable, flagged⟩ := h
    obtain ⟨e', mem, same⟩ := List.mem_map.1 ((exact'.structs.mem e.name).2 reachable)
    have flag' := flag e' mem
    rw [same, ← flagged, ← Bool.eq_iff_iff] at flag'
    have equal : e' = e := by
      cases e
      cases e'
      simp_all
    exact equal ▸ mem

/-! ## The order of declarations -/

/-- Two closures hold the same, perhaps in another order. -/
structure SameContents (closure closure' : DependencyClosure) : Prop where
  order : closure.order.Perm closure'.order
  enums : closure.enums.Perm closure'.enums
  handles : closure.handles.Perm closure'.handles
  aliases : closure.aliases.Perm closure'.aliases
  baseTypes : closure.baseTypes.Perm closure'.baseTypes

/-- Lists that hold the same names, each once, differ in their order only. -/
lemma Collects.perm {names names' : List String} {p p' : String → Prop} (collects : Collects names p)
    (collects' : Collects names' p') (same : ∀ name, p name ↔ p' name) : names.Perm names' := by
  apply (List.perm_ext_iff_of_nodup collects.nodup collects'.nodup).2
  intro name
  rw [collects.mem, collects'.mem, same]

section rearranged
variable {structs' : List StructDecl} {disabled' : DisabledSet}

open Registry

/-- A rearranged registry steps through the same aliases. -/
lemma aliasStep?_withStructs (rearranges : Rearranges reg structs') :
    (reg.withStructs structs').aliasStep? = reg.aliasStep? := by
  funext name
  unfold aliasStep?
  rw [rearranges.classify, rearranges.first]
  rfl

/-- Rearranged structs mention the same names. -/
lemma mentions_withStructs (rearranges : Rearranges reg structs') {owner name : String} :
    (reg.withStructs structs').Mentions owner name ↔ reg.Mentions owner name := by
  unfold Mentions
  rw [rearranges.first, aliasStep?_withStructs rearranges]

/-- Rearranged structs are composed of the same structs. -/
lemma composes_withStructs (rearranges : Rearranges reg structs') {owner struct : String} :
    (reg.withStructs structs').Composes owner struct ↔ reg.Composes owner struct := by
  rw [composes_iff_mentions, composes_iff_mentions, rearranges.classify, mentions_withStructs rearranges]

/-- The walk starts from the same names. -/
lemma mem_roots_withStructs (rearranges : Rearranges reg structs')
    (same : ∀ name, disabled'.contains name = disabled.contains name) {root : String} :
    root ∈ roots (reg.withStructs structs') disabled' rules ↔ root ∈ roots reg disabled rules := by
  simp only [roots, DisabledSet.excludes_congr same]
  exact ((rearranges.perm.filter _).map _).append_right _ |>.mem_iff

/-- With rearranged structs the same ones are reachable. -/
lemma reachable_withStructs (rearranges : Rearranges reg structs')
    (same : ∀ name, disabled'.contains name = disabled.contains name) {struct : String} :
    (reg.withStructs structs').Reachable disabled' rules struct ↔
      reg.Reachable disabled rules struct := by
  have composes : (reg.withStructs structs').Composes = reg.Composes := by
    funext owner struct
    exact propext (composes_withStructs rearranges)
  simp only [Reachable, mem_roots_withStructs rearranges same, rearranges.first, composes]

/-- With rearranged structs the same names are used. -/
lemma uses_withStructs (rearranges : Rearranges reg structs')
    (same : ∀ name, disabled'.contains name = disabled.contains name) {kind : TypeKind}
    {name : String} :
    (reg.withStructs structs').Uses disabled' rules kind name ↔ reg.Uses disabled rules kind name := by
  simp only [Uses, rearranges.classify, reachable_withStructs rearranges same,
    mentions_withStructs rearranges]

end rearranged

/-- A closure holds exactly the reachable structs and what their members meet. So it holds the same
whatever the order of the struct declarations, if the same declaration of each name comes first. -/
theorem contents_of_compute (done : DependencyClosure.compute reg disabled rules = .ok closure) :
    Exact reg disabled rules closure ∧
      ∀ structs' disabled' closure', Registry.Rearranges reg structs' →
        (∀ name, disabled'.contains name = disabled.contains name) →
        DependencyClosure.compute (reg.withStructs structs') disabled' rules = .ok closure' →
        SameContents closure' closure := by
  have exact₁ := compute_exact done
  refine ⟨exact₁, fun structs' disabled' closure' rearranges same done' => ?_⟩
  have exact₂ := compute_exact done'
  have reachable (name : String) : (reg.withStructs structs').Reachable disabled' rules name ↔
      reg.Reachable disabled rules name := reachable_withStructs rearranges same
  have uses (kind : TypeKind) (name : String) : (reg.withStructs structs').Uses disabled' rules kind name ↔
      reg.Uses disabled rules kind name := uses_withStructs rearranges same
  have order : closure'.order.Perm closure.order := by
    apply (List.perm_ext_iff_of_nodup exact₂.structs.nodup.of_map exact₁.structs.nodup.of_map).2
    intro e
    simp only [exact₁.mem_order_iff, exact₂.mem_order_iff, reachable, composes_withStructs rearranges]
  exact ⟨order, exact₂.enums.perm exact₁.enums (uses .enum),
    exact₂.handles.perm exact₁.handles (uses .handle),
    exact₂.aliases.perm exact₁.aliases (uses .aliased),
    exact₂.baseTypes.perm exact₁.baseTypes (uses .primitive)⟩

/-- Two devices that share a heap, one of them under an alias, beside an enum, a handle and a base
type. -/
def sharedHeap : Registry where
  structs := [
    { name := "VkPhysicalDeviceA", members := [bareMember "heap" "VkHeapKHR" 0] },
    { name := "VkHeapKHR", aliasOf := some "VkHeap", members := [] },
    { name := "VkPhysicalDeviceB",
      members := [bareMember "heap" "VkHeap" 1, bareMember "kind" "VkKind" 0] },
    { name := "VkHeap",
      members := [bareMember "queue" "VkQueue" 0, bareMember "address" "VkDeviceAddress" 0] }]
  enums := [{ name := "VkKind", kind := "enum", members := [] }]
  handles := ["VkQueue"]
  baseTypes := [("VkDeviceAddress", "uint64_t")]

/-- With two devices declared the other way round, the closure lists them the other way round and holds the
same. -/
theorem contents_of_compute_sharedHeap :
    ∃ closure closure', DependencyClosure.compute sharedHeap {} {} = .ok closure ∧
      DependencyClosure.compute (sharedHeap.withStructs sharedHeap.structs.reverse) {} {} =
        .ok closure' ∧
      structs closure = ["VkHeap", "VkPhysicalDeviceA", "VkPhysicalDeviceB"] ∧
      structs closure' = ["VkHeap", "VkPhysicalDeviceB", "VkPhysicalDeviceA"] ∧
      Registry.Rearranges sharedHeap sharedHeap.structs.reverse ∧
      Exact sharedHeap {} {} closure ∧ SameContents closure' closure := by
  have rearranges : Registry.Rearranges sharedHeap sharedHeap.structs.reverse :=
    Registry.rearranges_of_perm (by decide) (List.reverse_perm _)
  obtain ⟨closure, done, order⟩ : ∃ closure, DependencyClosure.compute sharedHeap {} {} = .ok closure ∧
      structs closure = ["VkHeap", "VkPhysicalDeviceA", "VkPhysicalDeviceB"] :=
    ⟨{ order := [⟨"VkHeap", true⟩, ⟨"VkPhysicalDeviceA", false⟩, ⟨"VkPhysicalDeviceB", false⟩]
       enums := ["VkKind"], handles := ["VkQueue"], aliases := ["VkHeapKHR"]
       baseTypes := ["VkDeviceAddress"] }, by decide +kernel, rfl⟩
  obtain ⟨closure', done', order'⟩ : ∃ closure',
      DependencyClosure.compute (sharedHeap.withStructs sharedHeap.structs.reverse) {} {} =
        .ok closure' ∧
      structs closure' = ["VkHeap", "VkPhysicalDeviceB", "VkPhysicalDeviceA"] :=
    ⟨{ order := [⟨"VkHeap", true⟩, ⟨"VkPhysicalDeviceB", false⟩, ⟨"VkPhysicalDeviceA", false⟩]
       enums := ["VkKind"], handles := ["VkQueue"], aliases := ["VkHeapKHR"]
       baseTypes := ["VkDeviceAddress"] }, by decide +kernel, rfl⟩
  obtain ⟨exact', same⟩ := contents_of_compute done
  exact ⟨closure, closure', done, done', order, order', rearranges, exact',
    same _ _ _ rearranges (fun _ => rfl) done'⟩

/-- Two declarations of one device, with different members. -/
def declaredTwice : Registry where
  structs := [
    { name := "VkPhysicalDeviceA", members := [bareMember "b" "VkB" 0] },
    { name := "VkPhysicalDeviceA", members := [bareMember "c" "VkC" 0] },
    { name := "VkB", members := [] },
    { name := "VkC", members := [] }]

/-- When two declarations of one name change places, the closure holds something else. -/
theorem contents_declaredTwice :
    declaredTwice.structs.reverse.Perm declaredTwice.structs ∧
      ∃ closure closure', DependencyClosure.compute declaredTwice {} {} = .ok closure ∧
        DependencyClosure.compute (declaredTwice.withStructs declaredTwice.structs.reverse) {} {} =
          .ok closure' ∧
        "VkB" ∈ structs closure ∧ "VkB" ∉ structs closure' := by
  refine ⟨List.reverse_perm _, ⟨[⟨"VkB", true⟩, ⟨"VkPhysicalDeviceA", false⟩], [], [], [], []⟩,
    ⟨[⟨"VkC", true⟩, ⟨"VkPhysicalDeviceA", false⟩], [], [], [], []⟩, ?_, ?_, ?_, ?_⟩
  all_goals decide +kernel

end Closure
end CapabilityRegistry
