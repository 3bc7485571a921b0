import CapabilityRegistry.Proofs.Chain.Linking
import CapabilityRegistry.Proofs.Mappings.Answers

/-!
# Why headers fail

A header fails where an entry cannot be linked into a chain, because it joins none or because its type
tag is empty. In the model of a registry every entry joins a chain, as the list of extended structs that
made it reportable is the one that it is linked by. The main result is `ofModel_fails_iff_untagged`: the
only entries that make a header fail are those of features and extensions whose struct declares an empty
type tag.
-/

namespace CapabilityRegistry.Traversal

variable {reg : Registry} {rules : Rules} {model : Model} {m : Mappings} {error : RegistryError}

/-! ## Errors of links -/

/-- A link fails at an empty type tag only, and tells the name of its entry. -/
lemma link_eq_error {e : StructEntry} {path : String} {head : ChainHead} :
    link e path head = .error error ↔ e.typeTag = "" ∧ error = .missingStructureType e.name := by
  unfold link
  split
  next none =>
    constructor
    · intro failed
      cases failed
      exact ⟨none, rfl⟩
    · intro h
      obtain ⟨_, rfl⟩ := h
      rfl
  next some => exact ⟨nofun, fun h => (some h.1).elim⟩

/-- Why the entry of a slot cannot be linked. -/
inductive Fault (m : Mappings) (s : Slot) : RegistryError → Prop where
  /-- It is to be linked into a chain, but its type tag is empty. -/
  | untagged {head : ChainHead} : head ∈ s.heads m → s.entry.typeTag = "" →
      Fault m s (.missingStructureType s.entry.name)
  /-- It joins no chain. -/
  | unchained : (∀ head, joins m s.entry.name head = false) → Fault m s (.unknownExtends s.entry.name)

/-- A core group that fails has an entry at fault. -/
lemma fault_of_coreBlock {g : CoreGroup} (failed : coreBlock m g = .error error) :
    ∃ e ∈ g.structs, Fault m ⟨e, .core g⟩ error := by
  obtain failed | ⟨_, _, ⟨⟩⟩ := bind_eq_error.1 failed
  obtain ⟨e, mem, failed⟩ := error_of_mapM failed
  refine ⟨e, mem, ?_⟩
  obtain failed | ⟨head, _, failed⟩ := bind_eq_error.1 failed
  · unfold coreHead at failed
    split at failed
    next => cases failed
    next features =>
      split at failed
      next => cases failed
      next properties =>
        cases failed
        refine .unchained fun head => Bool.eq_false_iff.2 ?_
        cases head with
        | properties => exact properties
        | features => exact features
  · obtain ⟨none, rfl⟩ := link_eq_error.1 failed
    exact .untagged (List.mem_singleton_self _) none

/-- A feature that fails has an entry at fault. -/
lemma fault_of_featureBlock {f : Requirer} (failed : featureBlock f = .error error) :
    ∃ e ∈ f.structs, Fault m ⟨e, .feature f⟩ error := by
  obtain failed | ⟨_, _, ⟨⟩⟩ := bind_eq_error.1 failed
  obtain ⟨head, all, failed⟩ := error_of_mapM failed
  obtain ⟨e, mem, failed⟩ := error_of_mapM failed
  obtain ⟨listed, named⟩ := List.mem_filter.1 mem
  obtain ⟨none, rfl⟩ := link_eq_error.1 failed
  have linked : head ∈ Slot.heads m ⟨e, .feature f⟩ := List.mem_filter.2 ⟨all, named⟩
  exact ⟨e, listed, .untagged linked none⟩

/-- An extension that fails has an entry at fault. -/
lemma fault_of_extensionBlock {head : ChainHead} {x : Requirer}
    (failed : extensionBlock m head x = .error error) :
    ∃ e ∈ x.structs, Fault m ⟨e, .extension x⟩ error := by
  obtain failed | ⟨_, _, ⟨⟩⟩ := bind_eq_error.1 failed
  obtain ⟨e, mem, failed⟩ := error_of_mapM failed
  refine ⟨e, mem, ?_⟩
  unfold extensionLink? at failed
  split at failed
  next unlisted =>
    cases failed
    rw [Bool.and_eq_true, Option.isNone_iff_eq_none] at unlisted
    exact .unchained fun head => by rw [joins, unlisted.1, Option.any_none]
  next =>
    split at failed
    next joined =>
      obtain ⟨none, rfl⟩ := link_eq_error.1 (map_eq_error.1 failed)
      have linked : head ∈ Slot.heads m ⟨e, .extension x⟩ :=
        List.mem_filter.2 ⟨mem_all head, joined⟩
      exact .untagged linked none
    next => cases failed

/-- All chains together fail at one slot. -/
lemma fault_of_chainBlocks (failed : chainBlocks m = .error error) : ∃ s ∈ slots m, Fault m s error := by
  obtain failed | ⟨_, _, failed⟩ := bind_eq_error.1 failed
  · obtain ⟨g, listed, failed⟩ := error_of_mapM failed
    obtain ⟨e, held, fault⟩ := fault_of_coreBlock failed
    exact ⟨⟨e, .core g⟩, mem_slots.2 ⟨listed, held⟩, fault⟩
  obtain failed | ⟨_, _, failed⟩ := bind_eq_error.1 failed
  · obtain ⟨f, listed, failed⟩ := error_of_mapM failed
    obtain ⟨e, held, fault⟩ := fault_of_featureBlock failed
    exact ⟨⟨e, .feature f⟩, mem_slots.2 ⟨List.mem_of_mem_filter listed, held⟩, fault⟩
  obtain failed | ⟨_, _, ⟨⟩⟩ := bind_eq_error.1 failed
  obtain ⟨head, _, failed⟩ := error_of_mapM failed
  obtain ⟨x, listed, failed⟩ := error_of_mapM failed
  obtain ⟨e, held, fault⟩ := fault_of_extensionBlock failed
  exact ⟨⟨e, .extension x⟩, mem_slots.2 ⟨listed, held⟩, fault⟩

/-- Where the chains are there, what is linked into them has a type tag. -/
lemma tagged_of_chainBlocks {blocks : List ChainBlock} (done : chainBlocks m = .ok blocks) {s : Slot}
    (mem : s ∈ slots m) {head : ChainHead} (linked : head ∈ s.heads m) : s.entry.typeTag ≠ "" := by
  obtain ⟨_, core, done⟩ := bind_eq_ok.1 done
  obtain ⟨_, features, done⟩ := bind_eq_ok.1 done
  obtain ⟨_, extensions, _⟩ := bind_eq_ok.1 done
  obtain ⟨e, place⟩ := s
  cases place with
  | core g =>
    obtain ⟨listed, held⟩ := mem_slots.1 mem
    obtain ⟨_, block⟩ := ok_of_mapM core listed
    obtain ⟨_, links, _⟩ := bind_eq_ok.1 block
    obtain ⟨_, linked⟩ := ok_of_mapM links held
    obtain ⟨_, _, linked⟩ := bind_eq_ok.1 linked
    exact (link_eq_ok.1 linked).1
  | feature f =>
    obtain ⟨listed, held⟩ := mem_slots.1 mem
    have nonempty : (!f.structs.isEmpty) = true := by
      simpa using List.ne_nil_of_mem held
    obtain ⟨_, block⟩ := ok_of_mapM features (List.mem_filter.2 ⟨listed, nonempty⟩)
    obtain ⟨_, chains, _⟩ := bind_eq_ok.1 block
    obtain ⟨_, links⟩ := ok_of_mapM chains (mem_all head)
    obtain ⟨_, linked⟩ := ok_of_mapM links (List.mem_filter.2 ⟨held, (List.mem_filter.1 linked).2⟩)
    exact (link_eq_ok.1 linked).1
  | extension x =>
    obtain ⟨listed, held⟩ := mem_slots.1 mem
    obtain ⟨_, chain⟩ := ok_of_mapM extensions (mem_all head)
    obtain ⟨_, block⟩ := ok_of_mapM chain listed
    obtain ⟨_, links, _⟩ := bind_eq_ok.1 block
    obtain ⟨_, linked'⟩ := ok_of_mapM links held
    unfold extensionLink? at linked'
    split at linked'
    next => cases linked'
    next =>
      rw [if_pos (List.mem_filter.1 linked).2] at linked'
      obtain ⟨_, linked, _⟩ := map_eq_ok.1 linked'
      exact (link_eq_ok.1 linked).1

/-! ## Faults of a model -/

/-- The slot is one of a feature or of an extension. -/
def Slot.Required (s : Slot) : Prop :=
  ∀ g, s.place ≠ .core g

/-- The struct behind a name declares an empty type tag. -/
def Untagged (reg : Registry) (m : Mappings) (name : String) : Prop :=
  ∃ d, reg.structDecl? (m.canonical name) = some d ∧ d.aliasOf = none ∧ d.typeTag = some ""

section model
variable {closure : DependencyClosure} {s : Slot}

variable (distinct : reg.structNames.Nodup)
  (built : Mappings.Built reg (.compute reg rules) closure rules m) (mem : s ∈ slots m)

include distinct built mem

/-- Behind the entry of a slot there is a chain of reportable names. -/
lemma exists_chain_of_slot : ∃ names last,
    Mappings.ReportableChain reg (.compute reg rules) rules (s.entry.name :: names) last := by
  have entered : s.entry ∈ m.entries := entries_eq ▸ List.mem_map_of_mem mem
  exact (Mappings.isReportable_iff_chain distinct built).1
    (Mappings.isReportable_of_mem_entries built entered)

/-- Every entry joins a chain, if there are no aggregators but the heads of chains. -/
lemma exists_joins (heads : ∀ a ∈ rules.aggregators, ∃ head : ChainHead, a = head.aggregator) :
    ∃ head, joins m s.entry.name head := by
  obtain ⟨names, last, reportable⟩ := exists_chain_of_slot distinct built mem
  obtain ⟨extended, states, extends_⟩ := (Option.any_eq_true _ _).1 reportable.aggregated
  obtain ⟨target, piece, aggregator⟩ := List.any_eq_true.1 extends_
  obtain ⟨head, same⟩ := heads _ (List.contains_iff_mem.1 aggregator)
  have answer := Mappings.extendedOf?_of_chain distinct built rfl reportable
  exact ⟨head, joins_of_lists ⟨extended, answer.trans states, target, piece, same⟩⟩

/-- The tag of an entry of a feature or extension is the one that its struct declares. -/
lemma untagged_iff (required : s.Required) : Untagged reg m s.entry.name ↔ s.entry.typeTag = "" := by
  obtain ⟨names, last, reportable⟩ := exists_chain_of_slot distinct built mem
  obtain ⟨found, own⟩ := reportable.chain.structDecl?_last
  have canonical := Mappings.canonical_of_chain distinct built reportable
  have answer : m.typeTag? s.entry.name = some s.entry.typeTag := by
    rw [Mappings.typeTag?, built.typeTags]
    obtain ⟨e, place⟩ := s
    cases place with
    | core g => exact (required g rfl).elim
    | feature f =>
      have entry : e ∈ Mappings.ClaimContext.entries m.features := List.mem_flatMap.2 ⟨f, mem_slots.1 mem⟩
      exact (Mappings.ClaimContext.mem_claimAll ((Mappings.features_perm built).mem_iff.1 entry)).2.2
    | extension x =>
      have entry : e ∈ Mappings.ClaimContext.entries m.extensions :=
        List.mem_flatMap.2 ⟨x, mem_slots.1 mem⟩
      rw [Mappings.extensions_eq built] at entry
      exact (Mappings.ClaimContext.mem_claimAll entry).2.2
  -- the claim went by the table of tags, which has for the entry what its struct declares
  have declared := (Mappings.typeTag?_of_chain distinct built reportable).symm.trans answer
  constructor
  · intro h
    obtain ⟨d, behind, _, empty⟩ := h
    rw [canonical, found] at behind
    cases behind
    exact Option.some.inj (declared.symm.trans empty)
  · intro empty
    exact ⟨last, canonical ▸ found, own, declared.trans (congrArg some empty)⟩

end model

/-- A header fails with the missing type tag of an entry of a feature or extension whose struct declares
an empty one, and with nothing else. It does fail where such an entry is to be linked into a chain. -/
theorem ofModel_fails_iff_untagged (distinct : reg.structNames.Nodup)
    (heads : ∀ a ∈ rules.aggregators, ∃ head : ChainHead, a = head.aggregator)
    (made : Model.ofRegistry reg rules = .ok model) :
    (∀ error, ofModel model = .error error → ∃ s ∈ slots model.mappings, s.Required ∧
      Untagged reg model.mappings s.entry.name ∧ error = .missingStructureType s.entry.name) ∧
    ∀ s ∈ slots model.mappings, s.Required → Untagged reg model.mappings s.entry.name →
      ∀ head ∈ s.heads model.mappings, ∃ error, ofModel model = .error error := by
  have made := Model.made_of_ofRegistry made
  have done := made.mappings
  rw [made.disabled] at done
  have built := Mappings.built_of_build done
  refine ⟨fun error failed => ?_, fun s mem required untagged head linked => ?_⟩
  · obtain failed | ⟨_, _, ⟨⟩⟩ := bind_eq_error.1 failed
    obtain ⟨s, mem, fault⟩ := fault_of_chainBlocks failed
    cases fault with
    | unchained alone =>
      obtain ⟨head, joined⟩ := exists_joins distinct built mem heads
      cases joined.symm.trans (alone head)
    | untagged _ empty =>
      -- the tag of a core entry follows from its name
      have required : s.Required := by
        intro g core
        obtain ⟨e, place⟩ := s
        cases core
        obtain ⟨c, _, rfl⟩ := exists_coreEntry built mem
        exact c.2.typeTag_ne_empty empty
      exact ⟨s, mem, required, (untagged_iff distinct built mem required).2 empty, rfl⟩
  · cases result : ofModel model with
    | error error => exact ⟨error, rfl⟩
    | ok header =>
      have linked := tagged_of_chainBlocks (written_of_ofModel result).chains mem linked
      exact (linked ((untagged_iff distinct built mem required).1 untagged)).elim

/-- An extension requires an alias of a struct with an empty type tag. -/
def emptyTag : Registry where
  structs := [
    { name := "VkPhysicalDeviceTileProperties", extended := some "VkPhysicalDeviceProperties2",
      typeTag := some "", members := [] },
    { name := "VkPhysicalDeviceTilePropertiesKHR", aliasOf := some "VkPhysicalDeviceTileProperties",
      members := [] }]
  extensions := [
    { name := "VK_KHR_tile", number := some 1, supported := "vulkan",
      requires := ⟨["VkPhysicalDeviceTilePropertiesKHR"], []⟩ }]

/-- A feature that requires a struct with an empty type tag makes the header fail. -/
theorem ofModel_fails_iff_untagged_emptyTag :
    ∃ model error, Model.ofRegistry emptyTag {} = .ok model ∧ ofModel model = .error error ∧
      ∃ s ∈ slots model.mappings, s.Required ∧ Untagged emptyTag model.mappings s.entry.name ∧
        error = .missingStructureType s.entry.name := by
  let disabled := DisabledSet.compute emptyTag {}
  let closure : DependencyClosure := { order := [⟨"VkPhysicalDeviceTileProperties", false⟩] }
  have closed : DependencyClosure.compute emptyTag disabled {} = .ok closure := by decide +kernel
  let e : StructEntry := ⟨"VkPhysicalDeviceTilePropertiesKHR", ""⟩
  let x : Requirer := ⟨"VK_KHR_tile", [e]⟩
  obtain ⟨m, built, listed, behind, joined⟩ :
      ∃ m, Mappings.build emptyTag disabled closure {} = .ok m ∧ m.extensions = [x] ∧
        m.canonical e.name = "VkPhysicalDeviceTileProperties" ∧ joins m e.name .properties = true := by
    refine ⟨_, rfl, ?_, ?_, ?_⟩ <;> decide +kernel
  let model : Model := ⟨{}, emptyTag, disabled, closure, m⟩
  have made : Model.ofRegistry emptyTag {} = .ok model := Model.ofRegistry_of_parts closed built
  have heads : ∀ a ∈ ({} : Rules).aggregators, ∃ head : ChainHead, a = head.aggregator := by
    intro a mem
    obtain rfl | mem := List.mem_cons.1 mem
    · exact ⟨.properties, rfl⟩
    · cases List.mem_singleton.1 mem
      exact ⟨.features, rfl⟩
  obtain ⟨only, fails⟩ := ofModel_fails_iff_untagged (by decide) heads made
  have mem : ⟨e, .extension x⟩ ∈ slots m :=
    mem_slots.2 ⟨listed ▸ List.mem_cons_self, List.mem_cons_self⟩
  have untagged : Untagged emptyTag m e.name := by
    rw [Untagged, behind]
    exact ⟨_, rfl, rfl, rfl⟩
  obtain ⟨error, failed⟩ := fails _ mem nofun untagged .properties
    (List.mem_filter.2 ⟨List.mem_cons_self, joined⟩)
  exact ⟨model, error, made, failed, only error failed⟩

end CapabilityRegistry.Traversal
