import CapabilityRegistry.Proofs.Declarations
import CapabilityRegistry.Proofs.Disabled
import CapabilityRegistry.Proofs.Mappings.Partition

/-!
# Reportable names

A name is reportable when its chain of aliases leads over enabled capability structs to one that extends
an aggregator. The alias graph of a build leaves out a declaration when its name or its target is
disabled, one step ahead; `hops_of_chain` and `chain_of_hops` say that the walks along its edges follow
the declared chains all the same, as long as no name on them is disabled.
-/

namespace CapabilityRegistry.Mappings
open Relation

/-- A chain of enabled capability structs that ends at one that extends an aggregator. -/
structure ReportableChain (reg : Registry) (disabled : DisabledSet) (rules : Rules)
    (names : List String) (last : StructDecl) : Prop where
  chain : reg.AliasChain names last
  capability : ∀ name ∈ names, rules.isCapability name = true
  enabled : ∀ name ∈ names, disabled.contains name = false
  aggregated : last.extended.any rules.extendsAggregator = true

variable {reg : Registry} {disabled : DisabledSet} {closure : DependencyClosure} {rules : Rules}
  {m : Mappings}

/-! ## Enabled structs -/

/-- An enabled struct has the name of a capability, and neither it nor its target is disabled. -/
lemma mem_enabledStructs {d : StructDecl} :
    d ∈ enabledStructs reg disabled rules ↔
      d ∈ reg.structs ∧ rules.isCapability d.name = true ∧ disabled.contains d.name = false ∧
        d.aliasOf.any disabled.contains = false := by
  simp [enabledStructs, DisabledSet.excludes]

/-- The edges of declarations of which no two have one name. -/
lemma target?_aliasEdges {structs : List StructDecl} (distinct : (structs.map (·.name)).Nodup)
    {name target : String} :
    (AliasGraph.ofPairs (aliasEdges structs)).target? name = some target ↔
      ∃ d ∈ structs, d.name = name ∧ d.aliasOf = some target := by
  have keeps : ∀ (d : StructDecl) edge, d.aliasOf.map (d.name, ·) = some edge → edge.1 = d.name := by
    intro d edge made
    obtain ⟨target, _, rfl⟩ := Option.map_eq_some_iff.1 made
    rfl
  have starts : ((aliasEdges structs).map (·.1)).Sublist (structs.map (·.name)) :=
    map_filterMap_sublist keeps
  rw [AliasGraph.target?_eq_some_iff, AliasGraph.edges_ofPairs (distinct.sublist starts)]
  simp [aliasEdges, and_comm]

/-- No enabled struct is listed twice where none is declared twice. -/
lemma nodup_enabledStructs (distinct : reg.structNames.Nodup) :
    ((enabledStructs reg disabled rules).map (·.name)).Nodup :=
  distinct.sublist (List.filter_sublist.map _)

/-- The edges of the alias graph, where no name is declared twice. -/
lemma target?_aliasGraph (distinct : reg.structNames.Nodup) {name target : String} :
    (aliasGraph reg disabled rules).target? name = some target ↔
      ∃ d ∈ enabledStructs reg disabled rules, d.name = name ∧ d.aliasOf = some target :=
  target?_aliasEdges (nodup_enabledStructs distinct)

/-- The structs that are reportable by themselves list an aggregator and are no aliases. -/
lemma mem_ownNames {name : String} :
    name ∈ ownNames reg disabled rules ↔
      ∃ d ∈ enabledStructs reg disabled rules, d.name = name ∧ d.aliasOf = none ∧
        d.extended.any rules.extendsAggregator = true := by
  simp only [ownNames, reportableStructs, List.mem_map, List.mem_filter, Bool.and_eq_true,
    Option.isNone_iff_eq_none]
  constructor
  · intro h
    obtain ⟨d, ⟨mem, own, aggregated⟩, same⟩ := h
    exact ⟨d, mem, same, own, aggregated⟩
  · intro h
    obtain ⟨d, mem, same, own, aggregated⟩ := h
    exact ⟨d, ⟨mem, own, aggregated⟩, same⟩

/-- A name is reportable when the walk from it leads to a reportable struct. -/
lemma mem_reportableNames (distinct : reg.structNames.Nodup) {name : String} :
    name ∈ (claimContext reg disabled rules).reportableNames ↔
      ∃ own ∈ ownNames reg disabled rules,
        Walk.Hops (aliasGraph reg disabled rules).target? name own := by
  constructor
  · intro reportable
    refine ⟨_, canonicalIn_mem_own distinct reportable, ?_⟩
    rw [canonicalIn]
    cases found : (aliasGraph reg disabled rules).root? name with
    -- a name whose walk returns counts as its own end
    | none => exact .refl
    | some root => exact (AliasGraph.root?_eq_some_iff.1 found).1
  · intro h
    obtain ⟨own, mem, hops⟩ := h
    obtain rfl | ⟨target, hop, _⟩ := hops.cases_head
    · exact List.mem_append_left _ mem
    · obtain ⟨d, enabled, rfl, stands⟩ := (target?_aliasGraph distinct).1 hop
      have stop := AliasGraph.target?_eq_none_iff.2 (not_mem_aliases_of_own distinct mem)
      have root : canonicalIn (aliasGraph reg disabled rules) d.name = own := by
        rw [canonicalIn, AliasGraph.root?_eq_some_iff.2 ⟨hops, stop⟩]
        rfl
      apply List.mem_append_right
      apply List.mem_map_of_mem
      apply List.mem_filter.2
      exact ⟨enabled, by simp [stands, root, mem]⟩

/-! ## Chains and walks -/

namespace ReportableChain
variable {names : List String} {last d : StructDecl} {target : String}

/-- A reportable struct is a chain of its own. -/
lemma single (found : reg.structDecl? d.name = some d) (enabled : d ∈ enabledStructs reg disabled rules)
    (own : d.aliasOf = none) (aggregated : d.extended.any rules.extendsAggregator = true) :
    ReportableChain reg disabled rules [d.name] d where
  chain := .last found own
  capability := List.forall_mem_singleton.2 (mem_enabledStructs.1 enabled).2.1
  enabled := List.forall_mem_singleton.2 (mem_enabledStructs.1 enabled).2.2.1
  aggregated := aggregated

/-- An enabled alias goes before the chain of its target. -/
lemma cons (found : reg.structDecl? d.name = some d) (enabled : d ∈ enabledStructs reg disabled rules)
    (stands : d.aliasOf = some target)
    (tail : ReportableChain reg disabled rules (target :: names) last) :
    ReportableChain reg disabled rules (d.name :: target :: names) last where
  chain := .cons found stands tail.chain
  capability := List.forall_mem_cons.2 ⟨(mem_enabledStructs.1 enabled).2.1, tail.capability⟩
  enabled := List.forall_mem_cons.2 ⟨(mem_enabledStructs.1 enabled).2.2.1, tail.enabled⟩
  aggregated := tail.aggregated

/-- Every declaration on the chain is that of an enabled capability struct. -/
lemma listed (reportable : ReportableChain reg disabled rules names last) {name : String}
    (mem : name ∈ names) (found : reg.structDecl? name = some d) :
    d ∈ enabledStructs reg disabled rules := by
  obtain ⟨declared, rfl⟩ := Registry.mem_structs_of_structDecl? found
  have ahead : d.aliasOf.any disabled.contains = false := by
    cases stands : d.aliasOf with
    | none => rfl
    -- the target is on the chain, so that the test of the build one step ahead passes
    | some target => exact reportable.enabled target (reportable.chain.mem_target mem found stands)
  exact mem_enabledStructs.2 ⟨declared, reportable.capability _ mem, reportable.enabled _ mem, ahead⟩

end ReportableChain

/-- A walk to a reportable struct goes along a chain. -/
lemma chain_of_hops (distinct : reg.structNames.Nodup) {name own : String}
    (mem : own ∈ ownNames reg disabled rules)
    (hops : Walk.Hops (aliasGraph reg disabled rules).target? name own) :
    ∃ names last, ReportableChain reg disabled rules (name :: names) last := by
  have declared : ∀ d ∈ enabledStructs reg disabled rules, reg.structDecl? d.name = some d :=
    fun d enabled => (Registry.structDecl?_eq_some_iff distinct).2 ⟨List.mem_of_mem_filter enabled, rfl⟩
  induction hops using ReflTransGen.head_induction_on with
  | refl =>
    obtain ⟨d, enabled, rfl, alone, aggregated⟩ := mem_ownNames.1 mem
    exact ⟨[], d, .single (declared d enabled) enabled alone aggregated⟩
  | @head name target hop _ ih =>
    obtain ⟨names, last, tail⟩ := ih
    obtain ⟨d, enabled, rfl, stands⟩ := (target?_aliasGraph distinct).1 hop
    exact ⟨target :: names, last, .cons (declared d enabled) enabled stands tail⟩

/-- The walk along the edges of the graph follows a chain to its end. -/
lemma hops_of_chain (distinct : reg.structNames.Nodup) {names : List String} {last : StructDecl}
    {name : String} (reportable : ReportableChain reg disabled rules (name :: names) last) :
    last.name ∈ ownNames reg disabled rules ∧
      Walk.Hops (aliasGraph reg disabled rules).target? name last.name := by
  induction names generalizing name with
  | nil =>
    obtain ⟨d, found, ⟨own, _, rfl⟩ | ⟨_, _, _, ⟨⟩, _⟩⟩ := reportable.chain.inv
    have enabled := reportable.listed List.mem_cons_self found
    obtain ⟨_, rfl⟩ := Registry.mem_structs_of_structDecl? found
    exact ⟨mem_ownNames.2 ⟨last, enabled, rfl, own, reportable.aggregated⟩, .refl⟩
  | cons target names ih =>
    obtain ⟨d, found, ⟨_, ⟨⟩, _⟩ | ⟨_, _, stands, ⟨⟩, tail⟩⟩ := reportable.chain.inv
    have listed := reportable.listed List.mem_cons_self found
    obtain ⟨_, rfl⟩ := Registry.mem_structs_of_structDecl? found
    have hop : (aliasGraph reg disabled rules).target? d.name = some target :=
      (target?_aliasGraph distinct).2 ⟨d, listed, rfl, stands⟩
    obtain ⟨_, capabilities⟩ := List.forall_mem_cons.1 reportable.capability
    obtain ⟨_, enabled⟩ := List.forall_mem_cons.1 reportable.enabled
    obtain ⟨own, hops⟩ := ih ⟨tail, capabilities, enabled, reportable.aggregated⟩
    exact ⟨own, .head hop hops⟩

/-- A name is reportable exactly when it starts a chain of enabled capability structs that ends at one
that extends an aggregator. -/
theorem isReportable_iff_chain (distinct : reg.structNames.Nodup)
    (built : Built reg disabled closure rules m) {name : String} :
    m.isReportable name = true ↔
      ∃ names last, ReportableChain reg disabled rules (name :: names) last := by
  rw [isReportable_iff_mem built, mem_reportableNames distinct]
  constructor
  · intro h
    obtain ⟨own, mem, hops⟩ := h
    exact chain_of_hops distinct mem hops
  · intro h
    obtain ⟨names, last, reportable⟩ := h
    obtain ⟨mem, hops⟩ := hops_of_chain distinct reportable
    exact ⟨last.name, mem, hops⟩

/-! ## Disabling one more name -/

/-- Only the values of the tracked enum can make a build fail. -/
lemma exists_build {growable : Option GrowableEnum}
    (collected : Growable.collect reg rules = .ok growable) :
    ∃ m, build reg disabled closure rules = .ok m := by
  unfold build
  rw [collected]
  exact ⟨_, rfl⟩

/-- Disabling one more name breaks the chains that pass through it. -/
lemma reportableChain_disabling {x : String} {names : List String} {last : StructDecl} :
    ReportableChain reg (.compute reg (rules.disabling x)) (rules.disabling x) names last ↔
      ReportableChain reg (.compute reg rules) rules names last ∧ x ∉ names := by
  have off : ∀ name, (DisabledSet.compute reg (rules.disabling x)).contains name = false ↔
      name ≠ x ∧ (DisabledSet.compute reg rules).contains name = false := by
    intro name
    rw [← Bool.not_eq_true, DisabledSet.contains_compute_disabling, not_or, Bool.not_eq_true]
  constructor
  · intro h
    refine ⟨⟨h.chain, h.capability, fun name mem => ?_, h.aggregated⟩, fun mem => ?_⟩
    · exact ((off name).1 (h.enabled name mem)).2
    · exact ((off x).1 (h.enabled x mem)).1 rfl
  · intro h
    obtain ⟨h, new⟩ := h
    refine ⟨h.chain, h.capability, fun name mem => ?_, h.aggregated⟩
    exact (off name).2 ⟨fun same => new (same ▸ mem), h.enabled name mem⟩

/-- The reportable names are those whose chains of aliases are undisabled and end at an aggregator, and
to disable a name takes away those whose chains pass through it. The closures have no part in it. -/
theorem isReportable_iff_undisabled (distinct : reg.structNames.Nodup)
    (done : build reg (.compute reg rules) closure rules = .ok m) :
    (∀ name, m.isReportable name = true ↔
      ∃ names last, ReportableChain reg (.compute reg rules) rules (name :: names) last) ∧
    ∀ x closure', ∃ m', build reg (.compute reg (rules.disabling x)) closure' (rules.disabling x) = .ok m' ∧
      ∀ name, m'.isReportable name = true ↔ m.isReportable name = true ∧
        ¬ ∃ names last, reg.AliasChain (name :: names) last ∧ x ∈ name :: names := by
  have built := built_of_build done
  have before : ∀ name, m.isReportable name = true ↔
      ∃ names last, ReportableChain reg (.compute reg rules) rules (name :: names) last :=
    fun name => isReportable_iff_chain distinct built
  refine ⟨before, fun x closure' => ?_⟩
  have collected : Growable.collect reg (rules.disabling x) = .ok m.growable := built.growable
  obtain ⟨m', done'⟩ : ∃ m', build reg (.compute reg (rules.disabling x)) closure' (rules.disabling x) =
      .ok m' := exists_build collected
  refine ⟨m', done', fun name => ?_⟩
  rw [isReportable_iff_chain distinct (built_of_build done'), before]
  constructor
  · intro h
    obtain ⟨names, last, chain⟩ := h
    obtain ⟨chain, off⟩ := reportableChain_disabling.1 chain
    refine ⟨⟨names, last, chain⟩, fun through => ?_⟩
    -- the chain that avoids `x` is the only one of its name
    obtain ⟨names', last', other, on⟩ := through
    exact off (chain.chain.unique other ▸ on)
  · intro h
    obtain ⟨⟨names, last, chain⟩, off⟩ := h
    refine ⟨names, last, reportableChain_disabling.2 ⟨chain, fun on => ?_⟩⟩
    exact off ⟨names, last, chain.chain, on⟩

/-- An extension requires an alias of an alias of a reportable struct. -/
def renamedTwice : Registry where
  structs := [
    { name := "VkPhysicalDeviceShaderFeatures", extended := some "VkPhysicalDeviceFeatures2",
      typeTag := some "VK_STRUCTURE_TYPE_PHYSICAL_DEVICE_SHADER_FEATURES",
      members := [
        { name := "shader", typeName := "VkBool32", cType := "VkBool32", isConst := false,
          pointerDepth := 0 }] },
    { name := "VkPhysicalDeviceShaderFeaturesKHR", aliasOf := some "VkPhysicalDeviceShaderFeatures",
      members := [] },
    { name := "VkPhysicalDeviceShaderFeaturesEXT", aliasOf := some "VkPhysicalDeviceShaderFeaturesKHR",
      members := [] }]
  extensions := [
    { name := "VK_EXT_shader", number := some 1, supported := "vulkan",
      requires := ⟨["VkPhysicalDeviceShaderFeaturesEXT"], []⟩ }]

/-- Disabling the struct at the end of a chain of two aliases takes the name at its start away. -/
theorem isReportable_iff_undisabled_renamedTwice :
    ∃ m, build renamedTwice (.compute renamedTwice {}) {} {} = .ok m ∧
      m.isReportable "VkPhysicalDeviceShaderFeaturesEXT" = true ∧
      ∃ m', build renamedTwice
          (.compute renamedTwice (Rules.disabling {} "VkPhysicalDeviceShaderFeatures")) {}
          (Rules.disabling {} "VkPhysicalDeviceShaderFeatures") = .ok m' ∧
        m'.isReportable "VkPhysicalDeviceShaderFeaturesEXT" = false := by
  have distinct : renamedTwice.structNames.Nodup := by decide
  have done : build renamedTwice (.compute renamedTwice {}) {} {} = .ok _ := rfl
  obtain ⟨reported, disabling⟩ := isReportable_iff_undisabled distinct done
  obtain ⟨m', done', remain⟩ := disabling "VkPhysicalDeviceShaderFeatures" {}
  have chain : renamedTwice.AliasChain ["VkPhysicalDeviceShaderFeaturesEXT",
      "VkPhysicalDeviceShaderFeaturesKHR", "VkPhysicalDeviceShaderFeatures"] _ :=
    .cons rfl rfl (.cons rfl rfl (.last rfl rfl))
  refine ⟨_, done, ?_, m', done', ?_⟩
  · apply (reported _).2
    exact ⟨_, _, chain, by decide +kernel, by decide +kernel, by decide +kernel⟩
  · apply Bool.eq_false_iff.2
    intro kept
    exact ((remain _).1 kept).2 ⟨_, _, chain, by decide⟩

end CapabilityRegistry.Mappings
