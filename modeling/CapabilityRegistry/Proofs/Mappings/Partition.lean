import CapabilityRegistry.Proofs.Mappings.Claims
import Mathlib.Data.List.Nodup

/-!
# The partition of the reportable structs

The four places of a build, core groups, features, extensions and the independent structs, share the
reportable structs out among them. The main result is `places_perm`: where no name is declared twice,
every reportable struct is in exactly one place, once, and nothing else is in any of them.
-/

namespace CapabilityRegistry.Mappings

/-- The entries of the core groups, of features and of extensions. -/
def entries (m : Mappings) : List StructEntry :=
  m.coreGroups.flatMap (·.structs) ++ ClaimContext.entries m.features ++
    ClaimContext.entries m.extensions

/-- The structs of the four places. -/
def places (m : Mappings) : List String :=
  m.entries.map (fun e => m.canonical e.name) ++ m.independent

variable {reg : Registry} {disabled : DisabledSet} {closure : DependencyClosure} {rules : Rules}
  {m : Mappings}

/-! ## Features and extensions -/

/-- The rows of features have the entries of all feature claims, in another order perhaps. -/
lemma features_perm (built : Built reg disabled closure rules m) :
    (ClaimContext.entries m.features).Perm
      (ClaimContext.entries (featureClaims reg disabled rules).1) := by
  rw [built.features, entries_filter]
  exact entries_mergeByName

/-- The rows of extensions have the entries of all extension claims. -/
lemma extensions_eq (built : Built reg disabled closure rules m) :
    ClaimContext.entries m.extensions =
      ClaimContext.entries (extensionClaims reg disabled rules).1 := by
  rw [built.extensions, entries_filter]

/-- No entry is in two features or extensions, whatever the registry declares twice. -/
theorem nodup_requirers (built : Built reg disabled closure rules m) :
    (ClaimContext.entries m.features ++ ClaimContext.entries m.extensions).Nodup := by
  let ctx := claimContext reg disabled rules
  have first : ((ClaimContext.entries (featureClaims reg disabled rules).1).map ctx.behind).Nodup :=
    ClaimContext.nodup_behind_claimAll.1
  have second : ((ClaimContext.entries (extensionClaims reg disabled rules).1).map ctx.behind).Nodup ∧
      ∀ e ∈ ClaimContext.entries (extensionClaims reg disabled rules).1,
        ctx.behind e ∉ (featureClaims reg disabled rules).2 :=
    ClaimContext.nodup_behind_claimAll
  rw [extensions_eq built, ((features_perm built).append_right _).nodup_iff]
  apply List.Nodup.of_map ctx.behind
  rw [List.map_append, List.nodup_append']
  refine ⟨first, second.1, fun name old new => ?_⟩
  obtain ⟨e, listed, rfl⟩ := List.mem_map.1 new
  apply second.2 e listed
  rw [featureClaims, ClaimContext.claimAll_snd]
  exact List.mem_append_left _ (List.mem_reverse.2 old)

/-! ## Own structs -/

/-- The names of reportable structs keep the order of their declarations. -/
lemma ownNames_sublist : (ownNames reg disabled rules).Sublist reg.structNames :=
  (List.filter_sublist.trans List.filter_sublist).map _

/-- A reportable struct has no alias edge, as no other declaration has its name. -/
lemma not_mem_aliases_of_own (distinct : reg.structNames.Nodup) {name : String}
    (own : name ∈ ownNames reg disabled rules) :
    name ∉ (aliasGraph reg disabled rules).aliases := by
  intro edge
  obtain ⟨d, mem, rfl⟩ := List.mem_map.1 own
  obtain ⟨enabled, reported⟩ := List.mem_filter.1 mem
  obtain ⟨⟨x, target⟩, pair, same⟩ := List.mem_map.1 (AliasGraph.mem_aliases_ofPairs.1 edge)
  obtain ⟨d', enabled', paired⟩ := List.mem_filterMap.1 pair
  obtain ⟨_, stands, eq⟩ := Option.map_eq_some_iff.1 paired
  cases eq
  have one : d' = d :=
    List.inj_on_of_nodup_map distinct (List.mem_of_mem_filter enabled')
      (List.mem_of_mem_filter enabled) same
  simp [← one, stands] at reported

/-- A reportable struct stands for itself. -/
lemma canonicalIn_own (distinct : reg.structNames.Nodup) {name : String}
    (own : name ∈ ownNames reg disabled rules) :
    canonicalIn (aliasGraph reg disabled rules) name = name := by
  rw [canonicalIn, AliasGraph.root?_of_not_mem (not_mem_aliases_of_own distinct own)]
  rfl

/-- A reportable name stands for a reportable struct. -/
lemma canonicalIn_mem_own (distinct : reg.structNames.Nodup) {name : String}
    (reportable : name ∈ (claimContext reg disabled rules).reportableNames) :
    canonicalIn (aliasGraph reg disabled rules) name ∈ ownNames reg disabled rules := by
  rcases List.mem_append.1 reportable with own | other
  · rwa [canonicalIn_own distinct own]
  · obtain ⟨d, mem, rfl⟩ := List.mem_map.1 other
    have h := (List.mem_filter.1 mem).2
    simp only [Bool.and_eq_true, List.contains_eq_mem, decide_eq_true_eq] at h
    exact h.2

/-- Core structs are some of the reportable ones, in the same order. -/
lemma coreStructs_names_sublist {own : List String} :
    ((coreStructs rules own).map (·.1)).Sublist own := by
  have keeps : ∀ name c, (CoreVersion.ofName? name rules.capabilityStart).map (name, ·) = some c →
      c.1 = id name := by
    intro name c made
    obtain ⟨v, _, rfl⟩ := Option.map_eq_some_iff.1 made
    rfl
  simpa [coreStructs] using map_filterMap_sublist keeps (l := own)

/-- A struct that lists an aggregator itself is reportable. -/
lemma isReportable_of_own (built : Built reg disabled closure rules m) {name : String}
    (own : name ∈ ownNames reg disabled rules) : m.isReportable name = true :=
  (isReportable_iff_mem built).2 (List.mem_append_left _ own)

/-- The entries of core groups, features and extensions have reportable names. -/
lemma isReportable_of_mem_entries (built : Built reg disabled closure rules m) {e : StructEntry}
    (mem : e ∈ m.entries) : m.isReportable e.name = true := by
  obtain (core | feature) | extension := (List.mem_append.1 mem).imp_left List.mem_append.1
  · rw [built.coreGroups, coreGroups_perm.mem_iff] at core
    obtain ⟨c, named, rfl⟩ := List.mem_map.1 core
    exact isReportable_of_own built (coreStructs_names_sublist.subset (List.mem_map_of_mem named))
  · rw [isReportable_iff_mem built]
    exact (ClaimContext.mem_claimAll ((features_perm built).mem_iff.1 feature)).2.1
  · rw [isReportable_iff_mem built]
    rw [extensions_eq built] at extension
    exact (ClaimContext.mem_claimAll extension).2.1

/-! ## What is claimed in the end -/

/-- The names of core structs. -/
def coreNames (reg : Registry) (disabled : DisabledSet) (rules : Rules) : List String :=
  (ownCore reg disabled rules).map (·.1)

/-- All that core groups, features and extensions have claimed. -/
def claimed (reg : Registry) (disabled : DisabledSet) (rules : Rules) : List String :=
  (extensionClaims reg disabled rules).2

/-- Nothing is claimed twice. -/
lemma nodup_claimed (distinct : reg.structNames.Nodup) : (claimed reg disabled rules).Nodup := by
  have core : (coreNames reg disabled rules).Nodup :=
    distinct.sublist (coreStructs_names_sublist.trans ownNames_sublist)
  exact ClaimContext.nodup_claimAll (ClaimContext.nodup_claimAll core)

/-- A build whose reportable structs are all claimed has no independent ones. -/
lemma build_of_claimed (done : build reg disabled closure rules = .ok m)
    (all : ∀ name ∈ ownNames reg disabled rules, name ∈ claimed reg disabled rules) :
    build reg disabled closure rules = .ok { m with independent := [] } := by
  have built := built_of_build done
  have alone : m.independent = [] := by
    rw [built.independent, List.filter_eq_nil_iff, built.reportable]
    intro name mem
    simpa [claimed] using all name (List.mem_mergeSort.1 mem)
  rw [done, ← alone]

/-- The structs behind the entries are what has been claimed. -/
lemma perm_claimed (distinct : reg.structNames.Nodup) (built : Built reg disabled closure rules m) :
    (m.entries.map fun e => m.canonical e.name).Perm (claimed reg disabled rules) := by
  let ctx := claimContext reg disabled rules
  have behind : (fun e : StructEntry => m.canonical e.name) = ctx.behind := by
    funext e
    rw [canonical, built.aliases]
    rfl
  have core : ((m.coreGroups.flatMap (·.structs)).map ctx.behind).Perm (coreNames reg disabled rules) := by
    rw [built.coreGroups]
    apply (coreGroups_perm.map ctx.behind).trans
    apply List.Perm.of_eq
    rw [List.map_map]
    apply List.map_congr_left
    intro c mem
    exact canonicalIn_own distinct (coreStructs_names_sublist.subset (List.mem_map_of_mem mem))
  have features := (features_perm built).map ctx.behind
  rw [behind, entries, List.map_append, List.map_append, extensions_eq built, claimed,
    extensionClaims, ClaimContext.claimAll_snd, featureClaims, ClaimContext.claimAll_snd]
  -- the claimed structs stand in the reverse order of the claims, those of core groups last
  apply (((core.append features).trans List.perm_append_comm).append_right _).trans
  apply List.perm_append_comm.trans
  exact (List.reverse_perm _).symm.append ((List.reverse_perm _).symm.append_right _)

/-- No entry stands in two places. -/
lemma nodup_entries (distinct : reg.structNames.Nodup) (built : Built reg disabled closure rules m) :
    m.entries.Nodup :=
  .of_map _ ((perm_claimed distinct built).nodup_iff.2 (nodup_claimed distinct))

/-- Requirers claim reportable structs only. -/
lemma claimAll_subset (distinct : reg.structNames.Nodup) {before : List String}
    {requests : List (String × List String)} (own : before ⊆ ownNames reg disabled rules) :
    ((claimContext reg disabled rules).claimAll before requests).2 ⊆ ownNames reg disabled rules := by
  intro name mem
  rw [ClaimContext.claimAll_snd] at mem
  rcases List.mem_append.1 mem with new | old
  · obtain ⟨e, listed, rfl⟩ := List.mem_map.1 (List.mem_reverse.1 new)
    obtain ⟨_, reportable, _⟩ := ClaimContext.mem_claimAll listed
    exact canonicalIn_mem_own distinct reportable
  · exact own old

/-- Only reportable structs are claimed. -/
lemma claimed_subset (distinct : reg.structNames.Nodup) :
    claimed reg disabled rules ⊆ ownNames reg disabled rules := by
  have core : coreNames reg disabled rules ⊆ ownNames reg disabled rules :=
    coreStructs_names_sublist.subset
  exact claimAll_subset distinct (claimAll_subset distinct core)

/-- Every reportable struct is in exactly one of the four places, and nothing else is in any. -/
theorem places_perm (distinct : reg.structNames.Nodup)
    (done : build reg disabled closure rules = .ok m) :
    m.places.Nodup ∧ m.places.Perm m.reportable := by
  have built := built_of_build done
  have own : (ownNames reg disabled rules).Perm m.reportable := by
    rw [built.reportable]
    exact (List.mergeSort_perm _ _).symm
  have nodup : m.reportable.Nodup := own.nodup_iff.1 (distinct.sublist ownNames_sublist)
  have taken : (claimed reg disabled rules).Perm
      (m.reportable.filter ((claimed reg disabled rules).contains ·)) := by
    apply (List.perm_ext_iff_of_nodup (nodup_claimed distinct) (nodup.filter _)).2
    intro name
    rw [List.mem_filter, List.contains_iff_mem]
    constructor
    · intro mem
      exact ⟨own.mem_iff.1 (claimed_subset distinct mem), mem⟩
    · exact And.right
  have perm : m.places.Perm m.reportable := by
    rw [places, built.independent]
    apply (((perm_claimed distinct built).trans taken).append_right _).trans
    exact List.filter_append_perm _ m.reportable
  exact ⟨perm.nodup_iff.2 nodup, perm⟩

/-- A struct that both a feature, under its alias, and an extension require, a core struct, and a struct
without a type tag. -/
def shared : Registry where
  structs := [
    { name := "VkPhysicalDeviceVulkan12Features", extended := some "VkPhysicalDeviceFeatures2",
      typeTag := some "VK_STRUCTURE_TYPE_PHYSICAL_DEVICE_VULKAN_1_2_FEATURES", members := [] },
    { name := "VkPhysicalDeviceShaderFeaturesKHR", aliasOf := some "VkPhysicalDeviceShaderFeatures",
      members := [] },
    { name := "VkPhysicalDeviceShaderFeatures", extended := some "VkPhysicalDeviceFeatures2",
      typeTag := some "VK_STRUCTURE_TYPE_PHYSICAL_DEVICE_SHADER_FEATURES", members := [] },
    { name := "VkPhysicalDeviceDriverProperties", extended := some "VkPhysicalDeviceProperties2",
      members := [] }]
  extensions := [
    { name := "VK_KHR_shader", number := none, supported := "vulkan",
      requires := ⟨["VkPhysicalDeviceShaderFeatures", "VkPhysicalDeviceDriverProperties"], []⟩ }]
  features := [
    { name := "VK_VERSION_1_2", api := "vulkan",
      requires := ⟨["VkPhysicalDeviceShaderFeaturesKHR"], []⟩ }]

/-- A struct that two sources ask for has one place. -/
theorem places_perm_shared :
    ∃ m, build shared {} {} {} = .ok m ∧
      m.entries.map (·.name) =
        ["VkPhysicalDeviceVulkan12Features", "VkPhysicalDeviceShaderFeaturesKHR"] ∧
      m.places.Nodup ∧ m.places.Perm m.reportable := by
  have distinct : shared.structNames.Nodup := by decide
  have done : build shared {} {} {} = .ok _ := rfl
  refine ⟨_, done, ?_, places_perm distinct done⟩
  decide +kernel

end CapabilityRegistry.Mappings
