import CapabilityRegistry.Proofs.Mappings.Build
import CapabilityRegistry.Proofs.Model
import CapabilityRegistry.Proofs.NameTable

/-!
# Counting members

The counting members of all structs are in one table, by the names of the list members alone. Nothing is in
the table but what some struct says, and every list member has an entry. The entry is its own wherever the
structs that have a list member of one name agree on its counting member, and only there
(`listSizes_complete_iff`). Two structs may well not agree (`listSizes_incomplete_tiles`).
-/

namespace CapabilityRegistry.Mappings

variable {reg : Registry} {disabled : DisabledSet} {closure : DependencyClosure} {rules : Rules}
  {m : Mappings} {list size : String}

/-- A capability struct that is not disabled has a list member with this name and this counting member. -/
def CountedBy (reg : Registry) (disabled : DisabledSet) (rules : Rules) (list size : String) : Prop :=
  ∃ d ∈ reg.structs, rules.isCapability d.name = true ∧ disabled.contains d.name = false ∧
    ∃ member ∈ d.members, member.name = list ∧ member.lenAttr = some size

/-- The list members of all capability structs in the order of the registry, with their counting members. -/
def countedMembers (reg : Registry) (disabled : DisabledSet) (rules : Rules) : List (String × String) :=
  ((reg.structs.filter fun d => rules.isCapability d.name && !disabled.contains d.name).flatMap
    (·.members)).filterMap fun member => member.lenAttr.map (member.name, ·)

/-- The recorded pairs are the lists with the members that count them. -/
lemma mem_countedMembers_iff :
    (list, size) ∈ countedMembers reg disabled rules ↔ CountedBy reg disabled rules list size := by
  constructor
  · intro entry
    obtain ⟨member, mem, counted⟩ := List.mem_filterMap.1 entry
    obtain ⟨_, counted, same⟩ := Option.map_eq_some_iff.1 counted
    cases same
    obtain ⟨d, counting, held⟩ := List.mem_flatMap.1 mem
    obtain ⟨declared, counts⟩ := List.mem_filter.1 counting
    obtain ⟨capability, enabled⟩ := Bool.and_eq_true_iff.1 counts
    rw [Bool.not_eq_true'] at enabled
    exact ⟨d, declared, capability, enabled, member, held, rfl, counted⟩
  · rintro ⟨d, declared, capability, enabled, member, held, rfl, counted⟩
    have counts : (rules.isCapability d.name && !disabled.contains d.name) = true := by
      rw [capability, enabled]
      rfl
    refine List.mem_filterMap.2 ⟨member, List.mem_flatMap.2 ⟨d, ?_, held⟩, ?_⟩
    · exact List.mem_filter.2 ⟨declared, counts⟩
    · rw [counted, Option.map_some]

/-- The table is made of the recorded pairs, all structs together. -/
lemma listSizes_eq (done : build reg disabled closure rules = .ok m) :
    m.listSizes = .ofList (countedMembers reg disabled rules) :=
  (built_of_build done).listSizes

/-- The table says what some struct says, and says something about every list member. It has the counting
members of all list members exactly where those of one name have the same one. -/
theorem listSizes_complete_iff (done : build reg disabled closure rules = .ok m) :
    (∀ list size, m.listSizes.get? list = some size → CountedBy reg disabled rules list size) ∧
      (∀ list size, CountedBy reg disabled rules list size → ∃ size', m.listSizes.get? list = some size') ∧
        ((∀ list size, CountedBy reg disabled rules list size → m.listSizes.get? list = some size) ↔
          ∀ list size size', CountedBy reg disabled rules list size →
            CountedBy reg disabled rules list size' → size = size') := by
  simp only [← mem_countedMembers_iff, listSizes_eq done]
  refine ⟨?_, ?_, NameTable.functional_iff_get?_ofList.symm⟩
  · intro list size found
    exact NameTable.mem_of_get?_ofList found
  · intro list size mem
    exact NameTable.exists_get?_ofList mem

/-- A properties struct with a list of layouts. -/
def layoutLister (name size : String) : StructDecl where
  name := name
  extended := some "VkPhysicalDeviceProperties2"
  members := [
    { name := size, typeName := "uint32_t", cType := "uint32_t", isConst := false, pointerDepth := 0 },
    { name := "pLayouts", typeName := "VkImageLayout", cType := "VkImageLayout*", isConst := false,
      pointerDepth := 1, lenAttr := some size }]

/-- Two structs whose lists have one name and counting members of the given names. -/
def layoutListers (size size' : String) : Registry where
  structs := [
    layoutLister "VkPhysicalDeviceHostProperties" size, layoutLister "VkPhysicalDeviceTileProperties" size']
  enums := [{ name := "VkImageLayout", kind := "enum", members := [] }]

/-- What its structs need. -/
def layoutClosure : DependencyClosure where
  order := [⟨"VkPhysicalDeviceHostProperties", false⟩, ⟨"VkPhysicalDeviceTileProperties", false⟩]
  enums := ["VkImageLayout"]

/-- Two structs that count a list of one name alike are both in the table. -/
theorem listSizes_complete_iff_agreed :
    ∃ m, build (layoutListers "layoutCount" "layoutCount") {} layoutClosure {} = .ok m ∧
      ∀ list size, CountedBy (layoutListers "layoutCount" "layoutCount") {} {} list size →
        m.listSizes.get? list = some size := by
  let reg := layoutListers "layoutCount" "layoutCount"
  have done : build reg {} layoutClosure {} = .ok _ := rfl
  have members :
      countedMembers reg {} {} = [("pLayouts", "layoutCount"), ("pLayouts", "layoutCount")] := by
    decide +kernel
  refine ⟨_, done, (listSizes_complete_iff done).2.2.2 ?_⟩
  intro list size size' counted counted'
  rw [← mem_countedMembers_iff, members] at counted counted'
  simp only [List.mem_cons, Prod.mk.injEq, List.not_mem_nil, or_false, or_self] at counted counted'
  exact counted.2.trans counted'.2.symm

/-- Of two structs that count the elements of a list of one name differently, one is not heard. -/
theorem listSizes_incomplete_tiles :
    ∃ model, Model.ofRegistry (layoutListers "layoutCount" "tileCount") {} = .ok model ∧
      ¬ ∀ list size, CountedBy (layoutListers "layoutCount" "tileCount") model.disabled {} list size →
        model.mappings.listSizes.get? list = some size := by
  let reg := layoutListers "layoutCount" "tileCount"
  let disabled := DisabledSet.compute reg {}
  have closed : DependencyClosure.compute reg disabled {} = .ok layoutClosure := by
    decide +kernel
  have built : build reg disabled layoutClosure {} = .ok _ := rfl
  refine ⟨_, Model.ofRegistry_of_parts closed built, fun all => ?_⟩
  have members :
      countedMembers reg disabled {} = [("pLayouts", "layoutCount"), ("pLayouts", "tileCount")] := by
    decide +kernel
  have host : CountedBy reg disabled {} "pLayouts" "layoutCount" := by
    rw [← mem_countedMembers_iff, members]
    exact List.mem_cons_self
  have tile : CountedBy reg disabled {} "pLayouts" "tileCount" := by
    rw [← mem_countedMembers_iff, members]
    exact List.mem_cons_of_mem _ List.mem_cons_self
  have same : some "layoutCount" = some "tileCount" := (all _ _ host).symm.trans (all _ _ tile)
  exact absurd same (by decide)

end CapabilityRegistry.Mappings
