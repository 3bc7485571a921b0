import CapabilityRegistry.Proofs.Bindings.Declared
import CapabilityRegistry.Proofs.Mappings.Reportable

/-!
# Structs of the tables

The tables of the bindings name structs by the aliases under which features and extensions require them,
however long the way from these to a struct is. An alias is declared only where its target is in the
closure, one step ahead. `listed_declared_iff` says for which entries that is enough.
-/

namespace CapabilityRegistry.Bindings

/-! ## What the tables list -/

/-- The name of a table. -/
def Table.name : Table → String
  | names name _ => name
  | pairs name _ => name
  | groups name _ => name
  | lists name _ => name

/-- The names that a table lists: its items, or the entries of its groups. -/
def Table.listed : Table → List String
  | names _ items => items
  | groups _ entries => entries.flatMap fun e => e.2.map (·.1)
  | pairs _ _ => []
  | lists _ _ => []

/-- The tables that list structs. -/
def structTables : List String :=
  ["REPORTABLE_STRUCTS", "EXTENSION_STRUCTS", "FEATURE_STRUCTS", "EXTENSION_INDEPENDENT_STRUCTS",
    "CORE_STRUCTS"]

/-- The structs that the tables list. -/
def listedStructs (b : Bindings) : List String :=
  (b.tables.filter (structTables.contains ·.name)).flatMap (·.listed)

section tables
variable {reg : Registry} {rules : Rules} {model : Model} {b : Bindings} {name : String}

/-- The tables list the structs of all parts of the mappings. -/
lemma listedStructs_eq (bound : Bound model b) :
    b.listedStructs = model.mappings.reportable
      ++ model.mappings.extensions.flatMap (·.structs.map (·.name))
      ++ model.mappings.features.flatMap (·.structs.map (·.name)) ++ model.mappings.independent
      ++ model.mappings.coreGroups.flatMap (·.structs.map (·.name)) := by
  rw [listedStructs, bound.tables]
  cases growable : model.mappings.growable <;>
    simp [tablesOf, structTables, Table.name, Table.listed, growable, List.flatMap_map, entryPairs,
      Function.comp_def]

/-- The tables list the reportable structs, the independent ones and all entries. -/
lemma mem_listedStructs_iff (bound : Bound model b) :
    name ∈ b.listedStructs ↔ name ∈ model.mappings.reportable ∨ name ∈ model.mappings.independent ∨
      name ∈ model.mappings.entries.map (·.name) := by
  simp only [listedStructs_eq bound, Mappings.entries, Mappings.ClaimContext.entries, List.map_append,
    List.map_flatMap, List.mem_append]
  tauto

/-! ## What is declared of it -/

/-- A struct that is no alias, or that the rules emit by itself. -/
def Rooted (reg : Registry) (rules : Rules) (name : String) : Prop :=
  ∃ d, reg.structDecl? name = some d ∧ (d.aliasOf = none ∨ name ∈ rules.standaloneStructs)

/-- A name that is declared for itself, for its target or for a member that uses it. -/
def Anchored (reg : Registry) (disabled : DisabledSet) (rules : Rules) (name : String) : Prop :=
  Rooted reg rules name ∨
    (∃ d target, reg.structDecl? name = some d ∧ d.aliasOf = some target ∧ Rooted reg rules target) ∨
    (∃ kind, reg.Uses disabled rules kind name) ∨ name ∈ preambleAliases.map (·.1)

/-- What is reachable is no alias or stands by itself. -/
lemma rooted_of_reachable {disabled : DisabledSet} (distinct : reg.structNames.Nodup)
    (reachable : reg.Reachable disabled rules name) : Rooted reg rules name := by
  obtain ⟨d, found⟩ := reachable.exists_structDecl?
  refine ⟨d, found, ?_⟩
  obtain ⟨root, mem, _, steps⟩ := reachable
  cases steps with
  | refl =>
    refine (List.mem_append.1 mem).imp_left fun h => ?_
    obtain ⟨d', listed, same⟩ := List.mem_map.1 h
    obtain ⟨declared, counts⟩ := List.mem_filter.1 listed
    cases found.symm.trans ((Registry.structDecl?_eq_some_iff distinct).2 ⟨declared, same⟩)
    simp only [Bool.and_eq_true, Option.isNone_iff_eq_none] at counts
    exact counts.1.1
  | tail _ step =>
    -- a struct that others are composed of is no alias
    obtain ⟨kind, _⟩ := Registry.composes_iff_mentions.1 step
    obtain ⟨d', found', own⟩ := Registry.declaredAs_of_classify kind
    cases found.symm.trans found'
    exact .inl own

/-- A struct that stands by itself is reachable without a member that uses it. -/
lemma reachable_of_standalone {disabled : DisabledSet} {d : StructDecl}
    (found : reg.structDecl? name = some d) (standalone : name ∈ rules.standaloneStructs) :
    reg.Reachable disabled rules name :=
  ⟨name, List.mem_append_right _ standalone, Option.isSome_iff_exists.2 ⟨d, found⟩, .refl⟩

/-- An enabled capability struct is reachable when it is no alias or stands by itself. -/
lemma reachable_iff_rooted {disabled : DisabledSet} (distinct : reg.structNames.Nodup)
    (capability : rules.isCapability name = true) (enabled : disabled.contains name = false) :
    reg.Reachable disabled rules name ↔ Rooted reg rules name := by
  refine ⟨rooted_of_reachable distinct, fun h => ?_⟩
  obtain ⟨d, found, own | standalone⟩ := h
  · obtain ⟨declared, rfl⟩ := Registry.mem_structs_of_structDecl? found
    have root : d.name ∈ Closure.roots reg disabled rules := by
      apply List.mem_append_left
      refine List.mem_map_of_mem (List.mem_filter.2 ⟨declared, ?_⟩)
      simp [own, capability, DisabledSet.excludes, enabled]
    exact ⟨d.name, root, Option.isSome_iff_exists.2 ⟨d, found⟩, .refl⟩
  · exact reachable_of_standalone found standalone

/-- A name that starts a reportable chain is declared exactly when it is anchored. -/
lemma declared_iff_anchored (distinct : reg.structNames.Nodup) (made : Model.Made reg rules model)
    (bound : Bound model b) {names : List String} {last : StructDecl}
    (reportable : Mappings.ReportableChain reg model.disabled rules (name :: names) last) :
    name ∈ b.declaredNames ↔ Anchored reg model.disabled rules name := by
  have capability := reportable.capability name List.mem_cons_self
  have enabled := reportable.enabled name List.mem_cons_self
  have next : ∀ d target, reg.structDecl? name = some d → d.aliasOf = some target →
      (reg.Reachable model.disabled rules target ↔ Rooted reg rules target) := by
    intro d target found stands
    obtain ⟨d', found', ⟨own, _⟩ | ⟨target', rest, stands', rfl, _⟩⟩ := reportable.chain.inv
    · cases found.symm.trans found'
      cases own.symm.trans stands
    · cases found.symm.trans found'
      cases stands.symm.trans stands'
      have on : target ∈ name :: target :: rest := List.mem_cons_of_mem name List.mem_cons_self
      exact reachable_iff_rooted distinct (reportable.capability target on) (reportable.enabled target on)
  have ahead : (model.disabled.contains name = false ∧ ∃ d ∈ reg.structs, ∃ target, d.name = name ∧
      d.aliasOf = some target ∧ reg.Reachable model.disabled rules target) ↔
      ∃ d target, reg.structDecl? name = some d ∧ d.aliasOf = some target ∧ Rooted reg rules target := by
    rw [and_iff_right enabled]
    constructor
    · intro h
      obtain ⟨d, declared, target, same, stands, reachable⟩ := h
      have found := (Registry.structDecl?_eq_some_iff distinct).2 ⟨declared, same⟩
      exact ⟨d, target, found, stands, (next d target found stands).1 reachable⟩
    · intro h
      obtain ⟨d, target, found, stands, rooted⟩ := h
      obtain ⟨declared, same⟩ := Registry.mem_structs_of_structDecl? found
      exact ⟨d, declared, target, same, stands, (next d target found stands).2 rooted⟩
  rw [mem_declaredNames_iff made bound, reachable_iff_rooted distinct capability enabled, ahead, Anchored]

/-- All structs that the tables list are declared exactly when all entries are anchored. -/
theorem listed_declared_iff (distinct : reg.structNames.Nodup)
    (made : Model.ofRegistry reg rules = .ok model) (done : ofModel model = .ok b) :
    (∀ name ∈ b.listedStructs, name ∈ b.declaredNames) ↔
      ∀ e ∈ model.mappings.entries, Anchored reg model.disabled rules e.name := by
  have bound := bound_of_ofModel done
  have made := Model.made_of_ofRegistry made
  have built := Mappings.built_of_build made.mappings
  have declared : ∀ name, model.mappings.isReportable name = true →
      (name ∈ b.declaredNames ↔ Anchored reg model.disabled rules name) := by
    intro name reportable
    obtain ⟨names, last, chain⟩ := (Mappings.isReportable_iff_chain distinct built).1 reportable
    exact declared_iff_anchored distinct made bound chain
  constructor
  · intro all e mem
    apply (declared e.name (Mappings.isReportable_of_mem_entries built mem)).1
    exact all e.name ((mem_listedStructs_iff bound).2 (.inr (.inr (List.mem_map_of_mem mem))))
  · intro anchored name listed
    have own : name ∈ model.mappings.reportable → name ∈ b.declaredNames := by
      intro listed
      rw [built.reportable, List.mem_mergeSort] at listed
      have reportable := Mappings.isReportable_of_own built listed
      obtain ⟨d, enabled, same, own, _⟩ := Mappings.mem_ownNames.1 listed
      have found := (Registry.structDecl?_eq_some_iff distinct).2 ⟨List.mem_of_mem_filter enabled, same⟩
      exact (declared name reportable).2 (.inl ⟨d, found, .inl own⟩)
    obtain reportable | independent | entry := (mem_listedStructs_iff bound).1 listed
    · exact own reportable
    · rw [built.independent] at independent
      exact own (List.mem_of_mem_filter independent)
    · obtain ⟨e, mem, rfl⟩ := List.mem_map.1 entry
      exact (declared e.name (Mappings.isReportable_of_mem_entries built mem)).2 (anchored e mem)

end tables

/-- An entry that is an alias of a reportable struct is declared. -/
theorem listed_declared_iff_shared :
    ∃ model b, Model.ofRegistry Mappings.shared {} = .ok model ∧ ofModel model = .ok b ∧
      "VkPhysicalDeviceShaderFeaturesKHR" ∈ b.listedStructs ∧
      ∀ name ∈ b.listedStructs, name ∈ b.declaredNames := by
  let disabled := DisabledSet.compute Mappings.shared {}
  let closure : DependencyClosure :=
    { order := [⟨"VkPhysicalDeviceVulkan12Features", false⟩, ⟨"VkPhysicalDeviceShaderFeatures", false⟩,
        ⟨"VkPhysicalDeviceDriverProperties", false⟩] }
  have closed : DependencyClosure.compute Mappings.shared disabled {} = .ok closure := by
    decide +kernel
  obtain ⟨m, built, entries⟩ : ∃ m, Mappings.build Mappings.shared disabled closure {} = .ok m ∧
      m.entries = [
        ⟨"VkPhysicalDeviceVulkan12Features", "VK_STRUCTURE_TYPE_PHYSICAL_DEVICE_VULKAN_1_2_FEATURES"⟩,
        ⟨"VkPhysicalDeviceShaderFeaturesKHR", "VK_STRUCTURE_TYPE_PHYSICAL_DEVICE_SHADER_FEATURES"⟩] := by
    refine ⟨_, rfl, ?_⟩
    decide +kernel
  let model : Model := ⟨{}, Mappings.shared, disabled, closure, m⟩
  have made : Model.ofRegistry Mappings.shared {} = .ok model := Model.ofRegistry_of_parts closed built
  obtain ⟨b, done, _⟩ : ∃ b, ofModel model = .ok b ∧ b.structs = _ := exists_bindings rfl
  have anchored : ∀ e ∈ model.mappings.entries, Anchored Mappings.shared model.disabled {} e.name := by
    intro e mem
    rw [show model.mappings.entries = _ from entries] at mem
    cases mem with
    | head => exact .inl ⟨_, rfl, .inl rfl⟩
    | tail _ mem =>
      cases List.mem_singleton.1 mem
      exact .inr (.inl ⟨_, _, rfl, rfl, _, rfl, .inl rfl⟩)
  refine ⟨model, b, made, done, ?_, (listed_declared_iff (by decide) made done).2 anchored⟩
  apply (mem_listedStructs_iff (bound_of_ofModel done)).2
  rw [show model.mappings.entries = _ from entries]
  exact .inr (.inr (by decide))

/-- An alias of an alias is listed as the entry of its extension, but not declared. -/
theorem listed_not_declared_renamedTwice :
    ∃ model b, Model.ofRegistry Mappings.renamedTwice {} = .ok model ∧ ofModel model = .ok b ∧
      "VkPhysicalDeviceShaderFeaturesEXT" ∈ b.listedStructs ∧
      "VkPhysicalDeviceShaderFeaturesEXT" ∉ b.declaredNames := by
  let disabled := DisabledSet.compute Mappings.renamedTwice {}
  let closure : DependencyClosure := { order := [⟨"VkPhysicalDeviceShaderFeatures", false⟩] }
  have closed : DependencyClosure.compute Mappings.renamedTwice disabled {} = .ok closure := by
    decide +kernel
  obtain ⟨m, built, entries, aliases⟩ :
      ∃ m, Mappings.build Mappings.renamedTwice disabled closure {} = .ok m ∧
        m.entries.map (·.name) = ["VkPhysicalDeviceShaderFeaturesEXT"] ∧
        Mappings.renamedTwice.structs.filterMap
            (structAlias? ⟨{}, Mappings.renamedTwice, disabled, closure, m⟩) =
          [("VkPhysicalDeviceShaderFeaturesKHR", "VkPhysicalDeviceShaderFeatures")] := by
    refine ⟨_, rfl, ?_, ?_⟩ <;> decide +kernel
  let model : Model := ⟨{}, Mappings.renamedTwice, disabled, closure, m⟩
  obtain ⟨b, done, structs⟩ : ∃ b, ofModel model = .ok b ∧
      b.structs = [⟨"VkPhysicalDeviceShaderFeatures", [("shader", .base "VkBool32")]⟩] :=
    exists_bindings rfl
  have bound := bound_of_ofModel done
  refine ⟨model, b, Model.ofRegistry_of_parts closed built, done, ?_, ?_⟩
  · apply (mem_listedStructs_iff bound).2
    rw [show model.mappings.entries.map (·.name) = _ from entries]
    exact .inr (.inr List.mem_cons_self)
  · have enums : b.enums = [] := bound.enums
    have types : b.typeAliases = [] := bound.typeAliases
    have handles : b.handles = [] := bound.handles
    have structAliases : b.structAliases = _ := bound.structAliases.trans aliases
    rw [declaredNames, enums, types, handles, structs, structAliases]
    decide

end CapabilityRegistry.Bindings
