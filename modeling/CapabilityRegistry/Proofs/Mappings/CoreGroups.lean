import CapabilityRegistry.Proofs.Mappings.CoreVersion
import CapabilityRegistry.Proofs.Mappings.Partition
import CapabilityRegistry.Proofs.Numeral

/-!
# Groups of core versions

The core groups of a build hold the reportable structs that are named after a core version, each in the group
of its digits (`mem_structs_iff`, `exists_coreGroup`). `coreGroups_of_build` sums up how the groups are formed: one
for each version, with one entry for each category at most, in ascending order.
-/

namespace CapabilityRegistry.Mappings

variable {reg : Registry} {disabled : DisabledSet} {closure : DependencyClosure} {rules : Rules}
  {m : Mappings} {g : CoreGroup} {core : List (String × CoreVersion)} {s : StructEntry} {name : String}
  {v : CoreVersion}

/-- A group is made of the core structs with its digits, of which there are some. -/
lemma mem_collectCoreGroups_iff :
    g ∈ collectCoreGroups core ↔ (∃ c ∈ core, c.2.digits = g.digits) ∧ g.key = "Core" ++ g.digits ∧
      g.structs = (core.filter (·.2.digits == g.digits)).map coreEntry := by
  unfold collectCoreGroups
  rw [List.mem_mergeSort, List.mem_map]
  constructor
  · rintro ⟨digits, listed, rfl⟩
    exact ⟨List.mem_map.1 (mem_distinct.1 listed), rfl, rfl⟩
  · rintro ⟨some, key, structs⟩
    refine ⟨g.digits, mem_distinct.2 (List.mem_map.2 some), ?_⟩
    cases g
    rw [CoreGroup.mk.injEq]
    exact ⟨key.symm, rfl, structs.symm⟩

/-- The core structs are the reportable structs that are named after a core version. -/
lemma mem_ownCore_iff :
    (name, v) ∈ ownCore reg disabled rules ↔
      name ∈ ownNames reg disabled rules ∧ v.Names rules.capabilityStart name := by
  constructor
  · intro mem
    obtain ⟨_, own, named⟩ := List.mem_filterMap.1 mem
    obtain ⟨_, named, same⟩ := Option.map_eq_some_iff.1 named
    cases same
    exact ⟨own, CoreVersion.ofName?_eq_some_iff.1 named⟩
  · rintro ⟨own, named⟩
    refine List.mem_filterMap.2 ⟨name, own, ?_⟩
    rw [CoreVersion.ofName?_eq_some_iff.2 named, Option.map_some]

/-- The reportable structs are those that list an aggregator themselves. -/
lemma mem_reportable_iff (built : Built reg disabled closure rules m) :
    name ∈ m.reportable ↔ name ∈ ownNames reg disabled rules := by
  rw [built.reportable, List.mem_mergeSort]

/-- The entries of a core group are the reportable structs that are named after its version. -/
theorem mem_structs_iff (built : Built reg disabled closure rules m) (listed : g ∈ m.coreGroups) :
    s ∈ g.structs ↔ ∃ v : CoreVersion, s.name ∈ m.reportable ∧ v.Names rules.capabilityStart s.name ∧
      v.digits = g.digits ∧ s.typeTag = v.typeTag := by
  rw [built.coreGroups, mem_collectCoreGroups_iff] at listed
  rw [listed.2.2, List.mem_map]
  constructor
  · rintro ⟨⟨name, v⟩, mem, rfl⟩
    obtain ⟨core, same⟩ := List.mem_filter.1 mem
    obtain ⟨own, named⟩ := mem_ownCore_iff.1 core
    exact ⟨v, (mem_reportable_iff built).2 own, named, beq_iff_eq.1 same, rfl⟩
  · rintro ⟨v, reportable, named, same, tag⟩
    have core := mem_ownCore_iff.2 ⟨(mem_reportable_iff built).1 reportable, named⟩
    refine ⟨(s.name, v), List.mem_filter.2 ⟨core, beq_iff_eq.2 same⟩, ?_⟩
    rw [coreEntry, ← tag]

/-- Every reportable struct that is named after a core version is in the group of that version. -/
theorem exists_coreGroup (built : Built reg disabled closure rules m) (reportable : name ∈ m.reportable)
    (named : v.Names rules.capabilityStart name) :
    ∃ g ∈ m.coreGroups, g.digits = v.digits ∧ ⟨name, v.typeTag⟩ ∈ g.structs := by
  have core := mem_ownCore_iff.2 ⟨(mem_reportable_iff built).1 reportable, named⟩
  let g : CoreGroup :=
    { key := "Core" ++ v.digits
      digits := v.digits
      structs := ((ownCore reg disabled rules).filter (·.2.digits == v.digits)).map coreEntry }
  have listed : g ∈ m.coreGroups := by
    rw [built.coreGroups, mem_collectCoreGroups_iff]
    exact ⟨⟨_, core, rfl⟩, rfl, rfl⟩
  exact ⟨g, listed, rfl, (mem_structs_iff built listed).2 ⟨v, reportable, named, rfl, rfl⟩⟩

/-- A core struct is in the groups with its digits. -/
lemma mem_names_iff (built : Built reg disabled closure rules m) (reportable : name ∈ m.reportable)
    (named : v.Names rules.capabilityStart name) (listed : g ∈ m.coreGroups) :
    name ∈ g.structs.map (·.name) ↔ g.digits = v.digits := by
  rw [List.mem_map]
  constructor
  · rintro ⟨s, held, rfl⟩
    obtain ⟨v', _, named', same, _⟩ := (mem_structs_iff built listed).1 held
    -- the name tells its version
    have one := (CoreVersion.ofName?_eq_some_iff.2 named').symm.trans (CoreVersion.ofName?_eq_some_iff.2 named)
    rw [← same, Option.some.inj one]
  · intro same
    exact ⟨⟨name, v.typeTag⟩, (mem_structs_iff built listed).2 ⟨v, reportable, named, same.symm, rfl⟩, rfl⟩

/-! ## Categories -/

/-- The name of the core struct of a version and a category. -/
def coreName (start digits category : String) : String :=
  start ++ "Vulkan" ++ digits ++ category

/-- The two categories of core structs. -/
def coreCategories : List String :=
  ["Properties", "Features"]

/-- A group is named after its digits and has one entry for some of the categories, which is the one that is found
by its category. -/
structure WellFormedGroup (start : String) (m : Mappings) (g : CoreGroup) : Prop where
  key : g.key = "Core" ++ g.digits
  reportable : ∀ s ∈ g.structs, s.name ∈ m.reportable
  categories : ∃ categories, categories ≠ [] ∧ categories.length ≤ 2 ∧ categories.Nodup ∧
    categories ⊆ coreCategories ∧ g.structs.map (·.name) = categories.map (coreName start g.digits)
  find?_iff : ∀ category ∈ coreCategories, ∀ s,
    g.find? category = some s ↔ s ∈ g.structs ∧ s.name = coreName start g.digits category

/-- A core name ends in its own category only. -/
lemma endsWith_coreName {start digits category ending : String} (known : category ∈ coreCategories)
    (known' : ending ∈ coreCategories) :
    Text.endsWith (coreName start digits category) ending = true ↔ category = ending := by
  have apart : ∀ c ∈ coreCategories, ∀ c' ∈ coreCategories, c.toList <:+ c'.toList → c = c' := by decide
  rw [Text.endsWith, List.isSuffixOf_iff_suffix, coreName, String.toList_append]
  constructor
  · intro ends
    obtain longer | shorter := List.suffix_or_suffix_of_suffix (List.suffix_append _ _) ends
    · exact apart category known ending known' longer
    · exact (apart ending known' category known shorter).symm
  · rintro rfl
    exact List.suffix_append _ _

/-- A core struct has the name of its version and category. -/
lemma name_of_names {start : String} (named : v.Names start name) :
    name = coreName start v.digits v.category ∧ v.category ∈ coreCategories := by
  refine ⟨named.spelling, ?_⟩
  rcases named.category with category | category <;> rw [category] <;> decide

section groups
variable (distinct : reg.structNames.Nodup) (built : Built reg disabled closure rules m)
  (listed : g ∈ m.coreGroups)

include built listed

/-- The core structs of a group's version. -/
lemma exists_versions :
    ∃ versions : List (String × CoreVersion), versions.Sublist (ownCore reg disabled rules) ∧ versions ≠ [] ∧
      g.structs = versions.map coreEntry ∧ g.key = "Core" ++ g.digits ∧
      ∀ c ∈ versions, c.1 = coreName rules.capabilityStart g.digits c.2.category ∧
        c.2.category ∈ coreCategories := by
  rw [built.coreGroups, mem_collectCoreGroups_iff] at listed
  obtain ⟨⟨c, core, same⟩, key, structs⟩ := listed
  have kept : c ∈ (ownCore reg disabled rules).filter (·.2.digits == g.digits) :=
    List.mem_filter.2 ⟨core, beq_iff_eq.2 same⟩
  refine ⟨_, List.filter_sublist, List.ne_nil_of_mem kept, structs, key, ?_⟩
  intro c mem
  obtain ⟨core, same⟩ := List.mem_filter.1 mem
  obtain ⟨spelling, known⟩ := name_of_names (mem_ownCore_iff.1 core).2
  rw [beq_iff_eq] at same
  rw [← same]
  exact ⟨spelling, known⟩

include distinct

/-- No struct is in a group twice. -/
lemma nodup_names : (g.structs.map (·.name)).Nodup := by
  obtain ⟨versions, kept, _, structs, _⟩ := exists_versions built listed
  have names : g.structs.map (·.name) = versions.map (·.1) := by
    rw [structs, List.map_map]
    rfl
  rw [names]
  exact distinct.sublist ((kept.map _).trans (coreStructs_names_sublist.trans ownNames_sublist))

/-- A category finds the entry with the name of the version and the category. -/
lemma find?_eq_some_iff {category : String} (known : category ∈ coreCategories) :
    g.find? category = some s ↔ s ∈ g.structs ∧ s.name = coreName rules.capabilityStart g.digits category := by
  obtain ⟨versions, _, _, structs, _, named⟩ := exists_versions built listed
  have found_iff : ∀ s ∈ g.structs, Text.endsWith s.name category = true ↔
      s.name = coreName rules.capabilityStart g.digits category := by
    intro s mem
    rw [structs] at mem
    obtain ⟨c, held, rfl⟩ := List.mem_map.1 mem
    obtain ⟨spelling, known'⟩ := named c held
    show Text.endsWith c.1 category = true ↔ c.1 = _
    constructor
    · intro ends
      rw [spelling, endsWith_coreName known' known] at ends
      rw [← ends]
      exact spelling
    · intro same
      rw [same]
      exact (endsWith_coreName known known).2 rfl
  rw [CoreGroup.find?]
  constructor
  · intro found
    have mem : s ∈ g.structs := List.mem_of_find?_eq_some found
    exact ⟨mem, (found_iff s mem).1 (by simpa using List.find?_some found)⟩
  · intro h
    obtain ⟨mem, same⟩ := h
    cases found : g.structs.find? fun s => Text.endsWith s.name category with
    | none =>
      have absent := List.find?_eq_none.1 found s mem
      exact (absent ((found_iff s mem).2 same)).elim
    | some s' =>
      have mem' : s' ∈ g.structs := List.mem_of_find?_eq_some found
      have same' := (found_iff s' mem').1 (by simpa using List.find?_some found)
      rw [List.inj_on_of_nodup_map (nodup_names distinct built listed) mem' mem (same'.trans same.symm)]

/-- Every core group is well formed. -/
lemma wellFormedGroup_of_mem : WellFormedGroup rules.capabilityStart m g := by
  obtain ⟨versions, kept, nonempty, structs, key, named⟩ := exists_versions built listed
  have names : g.structs.map (·.name) =
      (versions.map (·.2.category)).map (coreName rules.capabilityStart g.digits) := by
    rw [structs, List.map_map, List.map_map]
    exact List.map_congr_left fun c mem => (named c mem).1
  have nodup : (versions.map (·.2.category)).Nodup := by
    apply List.Nodup.of_map (coreName rules.capabilityStart g.digits)
    rw [← names]
    exact nodup_names distinct built listed
  have known : versions.map (·.2.category) ⊆ coreCategories := by
    intro category mem
    obtain ⟨c, held, rfl⟩ := List.mem_map.1 mem
    exact (named c held).2
  constructor
  case key => exact key
  case reportable =>
    intro s mem
    obtain ⟨v, reportable, _⟩ := (mem_structs_iff built listed).1 mem
    exact reportable
  case categories =>
    refine ⟨_, ?_, (List.subperm_of_subset nodup known).length_le, nodup, known, names⟩
    rw [ne_eq, List.map_eq_nil_iff]
    exact nonempty
  case find?_iff => exact fun category known s => find?_eq_some_iff distinct built listed known

end groups

/-! ## All groups -/

/-- No two groups have the same digits. -/
lemma nodup_digits : ((collectCoreGroups core).map (·.digits)).Nodup := by
  have digits : ((collectCoreGroups core).map (·.digits)).Perm (distinct (core.map (·.2.digits))) := by
    apply ((List.mergeSort_perm _ _).map _).trans
    rw [List.map_map]
    exact .of_eq (List.map_id _)
  exact digits.nodup_iff.2 nodup_distinct

/-- Groups ascend by the numbers that they count as. -/
lemma pairwise_groupNumber :
    (collectCoreGroups core).Pairwise fun g g' => groupNumber g.digits ≤ groupNumber g'.digits := by
  have trans : ∀ a b c : CoreGroup, decide (groupNumber a.digits ≤ groupNumber b.digits) = true →
      decide (groupNumber b.digits ≤ groupNumber c.digits) = true →
      decide (groupNumber a.digits ≤ groupNumber c.digits) = true := by
    simp only [decide_eq_true_eq]
    exact fun a b c => Nat.le_trans
  have total : ∀ a b : CoreGroup, (decide (groupNumber a.digits ≤ groupNumber b.digits) ||
      decide (groupNumber b.digits ≤ groupNumber a.digits)) = true := by
    simp only [Bool.or_eq_true, decide_eq_true_eq]
    exact fun a b => Nat.le_total _ _
  exact (List.pairwise_mergeSort trans total _).imp fun {a b} => of_decide_eq_true

/-- The number that decimal digits denote. -/
def denoted (digits : String) : Nat :=
  Nat.ofDigitChars 10 digits.toList 0

/-- A group counts as the number that its digits denote, or as the largest of 32 bits. -/
lemma groupNumber_eq (named : v.Names rules.capabilityStart name) :
    groupNumber v.digits = min (denoted v.digits) (2 ^ 32 - 1) := by
  have nonempty : v.digits.toList ≠ [] := by
    intro empty
    have several := named.several
    rw [empty] at several
    cases several
  rw [groupNumber, Numeral.unsigned?_of_digits nonempty named.digits, denoted]
  split
  next fits =>
    rw [Option.getD_some]
    omega
  next =>
    rw [Option.getD_none]
    omega

/-- The numbers of the groups ascend, as far as 32 bits tell them apart. -/
lemma pairwise_denoted (built : Built reg disabled closure rules m) :
    ((m.coreGroups.map fun g => denoted g.digits).filter (· < 2 ^ 32 - 1)).Pairwise (· ≤ ·) := by
  have counted : ∀ g ∈ m.coreGroups, groupNumber g.digits = min (denoted g.digits) (2 ^ 32 - 1) := by
    intro g listed
    rw [built.coreGroups, mem_collectCoreGroups_iff] at listed
    obtain ⟨⟨c, core, same⟩, _⟩ := listed
    rw [← same]
    exact groupNumber_eq (mem_ownCore_iff.1 core).2
  have ascending : m.coreGroups.Pairwise fun g g' => groupNumber g.digits ≤ groupNumber g'.digits := by
    rw [built.coreGroups]
    exact pairwise_groupNumber
  rw [List.pairwise_filter, List.pairwise_map]
  refine ascending.imp_of_mem fun {g g'} listed listed' le small small' => ?_
  rw [decide_eq_true_eq] at small small'
  rw [counted g listed, counted g' listed'] at le
  omega

/-- The core groups hold the reportable structs that are named after a core version, each one in the group of its
digits alone. No two groups have the same digits, each one has an entry for one category or for both, and they
ascend by the numbers that their digits denote. -/
theorem coreGroups_of_build (distinct : reg.structNames.Nodup)
    (done : build reg disabled closure rules = .ok m) :
    (∀ name ∈ m.reportable,
      ((∃ g ∈ m.coreGroups, name ∈ g.structs.map (·.name)) ↔
        ∃ v : CoreVersion, v.Names rules.capabilityStart name) ∧
      ∀ v : CoreVersion, v.Names rules.capabilityStart name →
        ∃ g, m.coreGroups.filter (fun g => name ∈ g.structs.map (·.name)) = [g] ∧
          g.digits = v.digits ∧ g.key = "Core" ++ v.digits) ∧
    (m.coreGroups.map (·.digits)).Nodup ∧
    (∀ g ∈ m.coreGroups, WellFormedGroup rules.capabilityStart m g) ∧
    ((m.coreGroups.map fun g => denoted g.digits).filter (· < 2 ^ 32 - 1)).Pairwise (· ≤ ·) := by
  have built := built_of_build done
  have digits : (m.coreGroups.map (·.digits)).Nodup := by
    rw [built.coreGroups]
    exact nodup_digits
  refine ⟨fun name reportable => ⟨?_, ?_⟩, digits,
    fun g listed => wellFormedGroup_of_mem distinct built listed, pairwise_denoted built⟩
  · constructor
    · rintro ⟨g, listed, mem⟩
      obtain ⟨s, held, rfl⟩ := List.mem_map.1 mem
      obtain ⟨v, _, named, _⟩ := (mem_structs_iff built listed).1 held
      exact ⟨v, named⟩
    · rintro ⟨v, named⟩
      obtain ⟨g, listed, _, held⟩ := exists_coreGroup built reportable named
      exact ⟨g, listed, List.mem_map_of_mem held⟩
  · intro v named
    obtain ⟨g, listed, same, _⟩ := exists_coreGroup built reportable named
    refine ⟨g, ?_, same, ?_⟩
    · rw [← filter_eq_singleton digits listed]
      apply List.filter_congr
      intro g' listed'
      rw [Bool.eq_iff_iff, decide_eq_true_iff, beq_iff_eq, same]
      exact mem_names_iff built reportable named listed'
    · rw [← same]
      exact (wellFormedGroup_of_mem distinct built listed).key

/-- Structs of two versions, the later version first. -/
def twoVersions : Registry where
  structs := [
    { name := "VkPhysicalDeviceVulkan12Properties", extended := some "VkPhysicalDeviceProperties2", members := [] },
    { name := "VkPhysicalDeviceVulkan11Features", extended := some "VkPhysicalDeviceFeatures2", members := [] },
    { name := "VkPhysicalDeviceVulkan12Features", extended := some "VkPhysicalDeviceFeatures2", members := [] }]

/-- With structs of two versions there is one group for each. -/
theorem coreGroups_of_build_twoVersions :
    twoVersions.structNames.Nodup ∧ ∃ m, build twoVersions {} {} {} = .ok m ∧
      (∃ g, m.coreGroups.filter (fun g => "VkPhysicalDeviceVulkan12Features" ∈ g.structs.map (·.name)) = [g] ∧
        g.digits = "12" ∧ g.key = "Core" ++ "12") ∧
      (m.coreGroups.map (·.digits)).Nodup ∧
      ∀ g ∈ m.coreGroups, WellFormedGroup "VkPhysicalDevice" m g := by
  have distinct : twoVersions.structNames.Nodup := by decide
  have done : build twoVersions {} {} {} = .ok _ := rfl
  obtain ⟨held, digits, formed, _⟩ := coreGroups_of_build distinct done
  have own : "VkPhysicalDeviceVulkan12Features" ∈ ownNames twoVersions {} {} := by decide +kernel
  have reportable := (mem_reportable_iff (built_of_build done)).2 own
  have named : CoreVersion.Names "VkPhysicalDevice" "VkPhysicalDeviceVulkan12Features" ⟨"12", "Features"⟩ :=
    CoreVersion.ofName?_eq_some_iff.1 rfl
  exact ⟨distinct, _, done, (held _ reportable).2 _ named, digits, formed⟩

end CapabilityRegistry.Mappings
