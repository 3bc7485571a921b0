import CapabilityRegistry.Proofs.Chain.Links
import CapabilityRegistry.Proofs.Mappings.CoreGroups
import CapabilityRegistry.Proofs.Model

/-!
# Versions of core groups

The digits of a core version are read twice: for the type tags of its structs, and for the version of the API
under which they are linked. Both readings agree on two digits and on no others (`namesGuard_iff`), so that a
minor version of two digits is wrong in one of them (`not_namesGuard_minorTen`).
-/

namespace CapabilityRegistry.Traversal

open CoreVersion (parted tagOf)

variable {reg : Registry} {rules : Rules} {model : Model} {m : Mappings} {g : CoreGroup}

/-- An entry with this core version in its name has the type tag of the version that guards the group. -/
def NamesGuard (g : CoreGroup) (e : StructEntry) (v : CoreVersion) : Prop :=
  ∃ version, coreGuard g = .version version ∧ e.typeTag = tagOf version v.category

/-- A core group is guarded by its first digit and the rest. -/
lemma coreGuard_eq (g : CoreGroup) : coreGuard g = .version (parted g.digits) := by
  rw [coreGuard, parted]

/-- The tag of an entry and the guard of its group part the digits alike where there are two. -/
lemma namesGuard_iff_two {e : StructEntry} {v : CoreVersion} (digits : v.digits = g.digits)
    (tag : e.typeTag = v.typeTag) : NamesGuard g e v ↔ g.digits.toList.length = 2 := by
  rw [← digits, ← CoreVersion.typeTag_eq_parted_iff, NamesGuard, coreGuard_eq, tag, digits]
  constructor
  · rintro ⟨version, same, named⟩
    cases same
    exact named
  · intro named
    exact ⟨_, rfl, named⟩

/-- A core group has a block under its guard, with the entries of the group. -/
lemma exists_coreBlock {blocks : List ChainBlock} (linked : chainBlocks m = .ok blocks)
    (listed : g ∈ m.coreGroups) :
    ∃ b ∈ blocks, b.guard = some (coreGuard g) ∧ (b.links.map (·.entry)).Perm g.structs := by
  obtain ⟨core, coreDone, done⟩ := bind_eq_ok.1 linked
  obtain ⟨features, _, done⟩ := bind_eq_ok.1 done
  obtain ⟨chains, _, done⟩ := bind_eq_ok.1 done
  cases done
  obtain ⟨b, made⟩ := ok_of_mapM coreDone listed
  have emitted : b ∈ core := (mem_of_mapM coreDone).2 ⟨g, listed, made⟩
  have guarded : b.guard = some (coreGuard g) := by
    obtain ⟨links, _, built⟩ := bind_eq_ok.1 made
    cases built
    rfl
  refine ⟨b, List.mem_append_left _ (List.mem_append_left _ emitted), guarded, ?_⟩
  have entries := (coreBlock_links made).map (·.entry)
  simpa [List.map_flatMap, Slot.links, Slot.heads] using entries

/-- The structs named after core versions are in the group of their digits, and linked under its guard. Their
type tags name the version of the guard exactly where there are two digits. -/
theorem namesGuard_iff (made : Model.ofRegistry reg rules = .ok model) :
    (∀ name ∈ model.mappings.reportable, ∀ v : CoreVersion, v.Names rules.capabilityStart name →
      ∃ g ∈ model.mappings.coreGroups, g.digits = v.digits ∧ ⟨name, v.typeTag⟩ ∈ g.structs) ∧
    (∀ g ∈ model.mappings.coreGroups, ∀ e ∈ g.structs, ∃ v : CoreVersion,
      e.name ∈ model.mappings.reportable ∧ v.Names rules.capabilityStart e.name ∧ v.digits = g.digits ∧
        (NamesGuard g e v ↔ g.digits.toList.length = 2)) ∧
    ∀ header, ofModel model = .ok header → ∀ g ∈ model.mappings.coreGroups,
      ∃ b ∈ header.chains, b.guard = some (coreGuard g) ∧ (b.links.map (·.entry)).Perm g.structs := by
  have built := Mappings.built_of_build (Model.made_of_ofRegistry made).mappings
  refine ⟨?_, ?_, ?_⟩
  · intro name reportable v named
    exact Mappings.exists_coreGroup built reportable named
  · intro g listed e held
    obtain ⟨v, reportable, named, digits, tag⟩ := (Mappings.mem_structs_iff built listed).1 held
    exact ⟨v, reportable, named, digits, namesGuard_iff_two digits tag⟩
  · intro header done g listed
    exact exists_coreBlock (written_of_ofModel done).chains listed

/-- The properties struct of a core version. -/
def versionStruct (digits : String) : String :=
  "VkPhysicalDeviceVulkan" ++ digits ++ "Properties"

/-- A registry with one struct, which is named after a core version. -/
def versioned (digits : String) : Registry where
  structs := [
    { name := versionStruct digits
      extended := some "VkPhysicalDeviceProperties2"
      typeTag := some (tagOf (parted digits) "Properties")
      members := [] }]

/-- The group of the struct. -/
def versionGroup (digits : String) : CoreGroup where
  key := "Core" ++ digits
  digits := digits
  structs := [⟨versionStruct digits, CoreVersion.typeTag ⟨digits, "Properties"⟩⟩]

/-- The model of the registry has one core group, and a header. -/
lemma versioned_header {digits : String} (either : digits = "14" ∨ digits = "110") :
    ∃ model header, Model.ofRegistry (versioned digits) {} = .ok model ∧ ofModel model = .ok header ∧
      model.mappings.coreGroups = [versionGroup digits] := by
  let reg := versioned digits
  let disabled := DisabledSet.compute reg {}
  let closure : DependencyClosure := { order := [⟨versionStruct digits, false⟩] }
  have closed : DependencyClosure.compute reg disabled {} = .ok closure := by
    rcases either with rfl | rfl <;> decide +kernel
  have core : Mappings.ownCore reg disabled {} = [(versionStruct digits, ⟨digits, "Properties"⟩)] := by
    rcases either with rfl | rfl <;> decide +kernel
  obtain ⟨m, built, groups, features, extensions, linked⟩ :
      ∃ m, Mappings.build reg disabled closure {} = .ok m ∧ m.coreGroups = [versionGroup digits] ∧
        m.features = [] ∧ m.extensions = [] ∧ (coreBlock m (versionGroup digits)).isOk = true := by
    refine ⟨_, rfl, ?_, ?_, ?_, ?_⟩
    · show Mappings.collectCoreGroups (Mappings.ownCore reg disabled {}) = [versionGroup digits]
      rw [core]
      rcases either with rfl | rfl <;> exact List.mergeSort_singleton _
    all_goals rcases either with rfl | rfl <;> decide +kernel
  obtain ⟨block, linked⟩ := exists_of_isOk linked
  have chained : chainBlocks m = .ok [block] := by
    unfold chainBlocks
    rw [groups, features, extensions]
    have core : [versionGroup digits].mapM (coreBlock m) = .ok [block] :=
      mapM_cons_eq_ok.2 ⟨block, [], linked, rfl, rfl⟩
    exact bind_eq_ok.2 ⟨[block], core, rfl⟩
  let model : Model := ⟨{}, reg, disabled, closure, m⟩
  obtain ⟨header, done, _⟩ : ∃ header, ofModel model = .ok header ∧ header.chains = [block] :=
    exists_header chained
  exact ⟨model, header, Model.ofRegistry_of_parts closed built, done, groups⟩

/-- The digits of version 1.4 are parted alike in the guard and in the tag. -/
theorem namesGuard_iff_minorFour :
    ∃ model header, Model.ofRegistry (versioned "14") {} = .ok model ∧ ofModel model = .ok header ∧
      (∃ g ∈ model.mappings.coreGroups, ∃ e ∈ g.structs, ∃ v, NamesGuard g e v) ∧
        ∃ b ∈ header.chains, b.guard = some (.version "1_4") := by
  obtain ⟨model, header, made, done, groups⟩ := versioned_header (.inl rfl)
  obtain ⟨grouped, tags, blocks⟩ := namesGuard_iff made
  have listed : versionGroup "14" ∈ model.mappings.coreGroups := by
    rw [groups]
    exact List.mem_singleton_self _
  refine ⟨model, header, made, done, ⟨versionGroup "14", listed, ?_⟩, ?_⟩
  · obtain ⟨v, _, _, _, agrees⟩ := tags _ listed _ List.mem_cons_self
    exact ⟨_, List.mem_cons_self, v, agrees.2 (by decide)⟩
  · obtain ⟨b, emitted, guarded, _⟩ := blocks header done _ listed
    exact ⟨b, emitted, guarded⟩

/-- A minor version of two digits is parted in the guard of its structs and not in their type tags. -/
theorem not_namesGuard_minorTen :
    ∃ model header, Model.ofRegistry (versioned "110") {} = .ok model ∧ ofModel model = .ok header ∧
      ¬ ∀ g ∈ model.mappings.coreGroups, ∀ e ∈ g.structs, ∀ v : CoreVersion,
        v.Names ({} : Rules).capabilityStart e.name → NamesGuard g e v := by
  obtain ⟨model, header, made, done, groups⟩ := versioned_header (.inr rfl)
  refine ⟨model, header, made, done, fun all => ?_⟩
  rw [groups] at all
  have digits : "110".toList.all Char.isDigit = true := by decide
  have named : CoreVersion.Names ({} : Rules).capabilityStart (versionStruct "110") ⟨"110", "Properties"⟩ :=
    ⟨rfl, List.all_eq_true.1 digits, by decide, .inl rfl⟩
  have agrees := all _ List.mem_cons_self _ List.mem_cons_self _ named
  rw [namesGuard_iff_two rfl rfl] at agrees
  exact absurd agrees (by decide)

end CapabilityRegistry.Traversal
