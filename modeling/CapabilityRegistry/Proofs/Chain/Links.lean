import CapabilityRegistry.Proofs.Distinct
import CapabilityRegistry.Proofs.Traversal

/-!
# The links of all chains

A slot is an entry at its place: in a core group, in a feature or in an extension. Each kind of place
has its own way to choose the chains of an entry. The main result is `links_perm`: the links of a
header are those of the slots, in another order.
-/

namespace CapabilityRegistry.Traversal

/-- Where an entry stands. -/
inductive Place where
  | core (g : CoreGroup)
  | feature (f : Requirer)
  | extension (x : Requirer)
  deriving DecidableEq

/-- An entry at its place. -/
structure Slot where
  entry : StructEntry
  place : Place
  deriving DecidableEq

/-- The slots of extensions. -/
def extensionSlots (m : Mappings) : List Slot :=
  m.extensions.flatMap fun x => x.structs.map (⟨·, .extension x⟩)

/-- The slots of the mappings, place by place. -/
def slots (m : Mappings) : List Slot :=
  m.coreGroups.flatMap (fun g => g.structs.map (⟨·, .core g⟩))
    ++ m.features.flatMap (fun f => f.structs.map (⟨·, .feature f⟩))
    ++ extensionSlots m

namespace Slot

/-- The chains into which the entry of a slot is linked. -/
def heads (m : Mappings) (s : Slot) : List ChainHead :=
  match s.place with
  | .core _ => [if joins m s.entry.name .features then .features else .properties]
  | .feature _ => ChainHead.all.filter fun head => Text.contains s.entry.name head.category
  | .extension _ => ChainHead.all.filter (joins m s.entry.name)

/-- The path under which the entry of a slot is linked into a chain. -/
def path (s : Slot) (head : ChainHead) : String :=
  match s.place with
  | .core g => "device." ++ coreGroupField g ++ "." ++ head.variableName
  | .feature _ => "device." ++ Naming.structField s.entry.name
  | .extension x =>
    "device." ++ Naming.extensionField x.name ++ "." ++ Naming.structField s.entry.name

/-- The links of a slot. -/
def links (m : Mappings) (s : Slot) : List ChainLink :=
  (s.heads m).map fun head => ⟨s.entry, s.path head, head⟩

end Slot

variable {m : Mappings}

/-- A link is made of an entry whose type tag is not empty. -/
lemma link_eq_ok {e : StructEntry} {path : String} {head : ChainHead} {l : ChainLink} :
    link e path head = .ok l ↔ e.typeTag ≠ "" ∧ ⟨e, path, head⟩ = l := by
  unfold link
  split
  next none => exact ⟨nofun, fun h => (h.1 none).elim⟩
  next some => exact ⟨fun h => ⟨some, Except.ok.inj h⟩, fun h => congrArg _ h.2⟩

/-- The chain of a core entry is the one of features, if it joins that one. -/
lemma coreHead_eq_ok {name : String} {head : ChainHead} :
    coreHead m name = .ok head ↔
      joins m name head ∧ head = if joins m name .features then .features else .properties := by
  unfold coreHead
  split
  next features =>
    constructor
    · intro done
      cases done
      exact ⟨features, rfl⟩
    · intro h
      obtain ⟨_, rfl⟩ := h
      rfl
  next none =>
    split
    next properties =>
      constructor
      · intro done
        cases done
        exact ⟨properties, rfl⟩
      · intro h
        obtain ⟨_, rfl⟩ := h
        rfl
    next neither =>
      refine ⟨nofun, ?_⟩
      intro h
      obtain ⟨joined, rfl⟩ := h
      exact (neither joined).elim

/-- The links of a core group. -/
lemma coreBlock_links {g : CoreGroup} {block : ChainBlock} (done : coreBlock m g = .ok block) :
    block.links.Perm (g.structs.flatMap fun e => Slot.links m ⟨e, .core g⟩) := by
  obtain ⟨links, each, built⟩ := bind_eq_ok.1 done
  cases built
  have grouped : (ChainHead.all.flatMap fun head => links.filter (·.head == head)).Perm links := by
    apply flatMap_filter_perm (by decide)
    intro l _
    cases l.head <;> decide
  have all : (links.flatMap ([·])).Perm (g.structs.flatMap fun e => Slot.links m ⟨e, .core g⟩) := by
    apply flatMap_perm_of_mapM _ each
    intro e l linked
    obtain ⟨head, found, linked⟩ := bind_eq_ok.1 linked
    obtain ⟨_, rfl⟩ := coreHead_eq_ok.1 found
    rw [← (link_eq_ok.1 linked).2]
    exact .rfl
  rw [List.flatMap_singleton'] at all
  exact grouped.trans all

/-- The links of a feature. -/
lemma featureBlock_links {f : Requirer} {block : ChainBlock} (done : featureBlock f = .ok block) :
    block.links.Perm (f.structs.flatMap fun e => Slot.links m ⟨e, .feature f⟩) := by
  obtain ⟨chains, each, built⟩ := bind_eq_ok.1 done
  cases built
  have all : chains = ChainHead.all.map fun head =>
      (f.structs.filter fun e => Text.contains e.name head.category).map fun e =>
        ⟨e, Slot.path ⟨e, .feature f⟩ head, head⟩ := by
    apply eq_map_of_mapM _ each
    intro head chain linked
    apply eq_map_of_mapM _ linked
    intro e l linked
    exact (link_eq_ok.1 linked).2.symm
  rw [all, ← List.flatMap_def]
  exact flatMap_filter_comm

/-- The links of an extension into one chain. -/
lemma extensionBlock_links {head : ChainHead} {x : Requirer} {block : ChainBlock}
    (done : extensionBlock m head x = .ok block) :
    block.links = (x.structs.filter fun e => joins m e.name head).map fun e =>
      ⟨e, Slot.path ⟨e, .extension x⟩ head, head⟩ := by
  obtain ⟨found, each, built⟩ := bind_eq_ok.1 done
  cases built
  have all : found.map Option.toList = x.structs.map fun e =>
      if joins m e.name head then [⟨e, Slot.path ⟨e, .extension x⟩ head, head⟩] else [] := by
    apply map_eq_map_of_mapM _ each
    intro e l? done
    unfold extensionLink? at done
    split at done
    next => cases done
    next =>
      split at done
      next joined =>
        obtain ⟨l, linked, rfl⟩ := map_eq_ok.1 done
        rw [if_pos joined, ← (link_eq_ok.1 linked).2]
        rfl
      next apart =>
        cases done
        rw [if_neg apart]
        rfl
  show found.filterMap id = _
  rw [← flatMap_ite_eq_map_filter, List.flatMap_def, ← all, List.filterMap_eq_flatMap_toList,
    List.flatMap_def]
  rfl

/-- The links of all extensions into all chains. -/
lemma extensionBlocks_links {chains : List (List ChainBlock)}
    (done : (ChainHead.all.mapM fun head => m.extensions.mapM (extensionBlock m head)) = .ok chains) :
    (chains.flatten.flatMap (·.links)).Perm ((extensionSlots m).flatMap (Slot.links m)) := by
  -- the header goes chain by chain, the slots go extension by extension
  have each : (chains.flatMap (·.flatMap (·.links))).Perm (ChainHead.all.flatMap fun head =>
      ((extensionSlots m).filter fun s => joins m s.entry.name head).map fun s =>
        ⟨s.entry, s.path head, head⟩) := by
    apply flatMap_perm_of_mapM _ done
    intro head chain done
    apply (flatMap_perm_of_mapM (fun done => .of_eq (extensionBlock_links done)) done).trans
    simp only [extensionSlots, List.filter_flatMap, List.map_flatMap, List.filter_map, List.map_map]
    exact .rfl
  have comm : (ChainHead.all.flatMap fun head =>
      ((extensionSlots m).filter fun s => joins m s.entry.name head).map fun s =>
        ⟨s.entry, s.path head, head⟩).Perm ((extensionSlots m).flatMap (Slot.links m)) := by
    apply flatMap_filter_comm.trans
    simp only [extensionSlots, List.flatMap_assoc, List.flatMap_map]
    exact .rfl
  rw [← List.flatMap_id, List.flatMap_assoc]
  exact each.trans comm

/-- The links of a header are those of the slots, in another order. -/
theorem links_perm {blocks : List ChainBlock} (done : chainBlocks m = .ok blocks) :
    (blocks.flatMap (·.links)).Perm ((slots m).flatMap (Slot.links m)) := by
  obtain ⟨core, coreDone, done⟩ := bind_eq_ok.1 done
  obtain ⟨features, featuresDone, done⟩ := bind_eq_ok.1 done
  obtain ⟨chains, chainsDone, done⟩ := bind_eq_ok.1 done
  cases done
  have ofCore : (core.flatMap (·.links)).Perm
      (m.coreGroups.flatMap fun g => g.structs.flatMap fun e => Slot.links m ⟨e, .core g⟩) :=
    flatMap_perm_of_mapM coreBlock_links coreDone
  have ofFeatures : (features.flatMap (·.links)).Perm
      (m.features.flatMap fun f => f.structs.flatMap fun e => Slot.links m ⟨e, .feature f⟩) := by
    apply (flatMap_perm_of_mapM (featureBlock_links (m := m)) featuresDone).trans
    apply List.Perm.of_eq
    apply flatMap_filter_of_nil
    intro f empty
    have none : f.structs = [] := List.isEmpty_iff.1 (by simpa using empty)
    rw [none, List.flatMap_nil]
  have nonempty : (chains.flatten.filter (!·.links.isEmpty)).flatMap (·.links) =
      chains.flatten.flatMap (·.links) :=
    flatMap_filter_of_nil fun block empty => List.isEmpty_iff.1 (by simpa using empty)
  have ofExtensions := extensionBlocks_links chainsDone
  rw [← nonempty] at ofExtensions
  simp only [slots, List.flatMap_append, List.flatMap_assoc, List.flatMap_map]
  exact (ofCore.append ofFeatures).append ofExtensions

end CapabilityRegistry.Traversal
