import CapabilityRegistry.Proofs.Chain.Links
import CapabilityRegistry.Proofs.Mappings.CoreVersion
import CapabilityRegistry.Proofs.Mappings.Partition
import CapabilityRegistry.Proofs.Model

/-!
# Which entries are linked rightly

An entry is linked rightly when it has one link in the whole header, under the path of the field that
declares it, into the chain whose head it extends. The three kinds of places choose chains by three
different texts, so not every entry is. The main result is `rightlyLinked_iff`, which says exactly when
all of them are; `not_rightlyLinked_tiles` shows a struct of a core version that is linked twice.
-/

namespace CapabilityRegistry.Traversal

/-- The list of structs that a struct extends has the head of a chain among its parts. -/
def Lists (m : Mappings) (name : String) (head : ChainHead) : Prop :=
  ∃ extended, m.extendedOf? name = some extended ∧
    ∃ target ∈ Text.splitAt ',' extended, Text.trimmed target = head.aggregator

/-- The record that holds the structs of a place, with its path. -/
def holder (model : Model) : Place → Record × String
  | .core g => (coreRecord model.mappings g, "device." ++ coreGroupField g)
  | .feature _ => (deviceRecord model, "device")
  | .extension x =>
    (wrapperRecord model.mappings x, "device." ++ Naming.extensionField x.name)

/-- The record of a slot declares its struct at a path. -/
def Declares (model : Model) (s : Slot) (path : String) : Prop :=
  ∃ field ∈ (holder model s.place).1.structs, field.typeName = s.entry.name ∧
    path = (holder model s.place).2 ++ "." ++ field.name

/-- Among all links the entry of a slot has one, with the path where it is declared and with the only
head that it lists. -/
def RightlyLinked (model : Model) (links : List ChainLink) (s : Slot) : Prop :=
  ∃ path head, Declares model s path ∧ links.filter (·.entry == s.entry) = [⟨s.entry, path, head⟩] ∧
    ∀ h, Lists model.mappings s.entry.name h ↔ h = head

/-- What links an entry rightly at its place: it lists one head, and the text that the place goes by
tells of the same chain. A core group goes by the list of extended structs but declares by the name, a
feature goes by the name, and an extension by what the list mentions. -/
def Sound (m : Mappings) (s : Slot) : Prop :=
  ∃ head, (∀ h, Lists m s.entry.name h ↔ h = head) ∧
    match s.place with
    | .core _ =>
      coreField s.entry.name = head.variableName ∧
        (joins m s.entry.name .features → head = .features)
    | .feature _ => ∀ h, Text.contains s.entry.name h.category ↔ h = head
    | .extension _ => ∀ h, joins m s.entry.name h → h = head

variable {reg : Registry} {rules : Rules} {model : Model} {m : Mappings}

/-- A struct that lists a head mentions it. -/
lemma joins_of_lists {name : String} {head : ChainHead} (lists : Lists m name head) :
    joins m name head := by
  obtain ⟨extended, found, target, mem, same⟩ := lists
  rw [joins, found, Option.any_some, ← same]
  exact Text.contains_of_mem_splitAt mem

/-! ## Fields -/

namespace Place

/-- The field of a struct in the record of a place. -/
def field : Place → String → String
  | core _, name => coreField name
  | _, name => Naming.structField name

/-- The field under which a place links a struct. -/
def linkedField : Place → ChainHead → String → String
  | core _, head, _ => head.variableName
  | _, _, name => Naming.structField name

end Place

/-- The path of a link goes through the record that holds the structs of its place. -/
lemma path_eq {s : Slot} {head : ChainHead} :
    s.path head = (holder model s.place).2 ++ "." ++ s.place.linkedField head s.entry.name := by
  obtain ⟨e, place⟩ := s
  cases place with
  | core g => rfl
  | extension x => rfl
  | feature f =>
    show "device." ++ Naming.structField e.name = "device" ++ "." ++ Naming.structField e.name
    rfl

/-- The structs that the device holds itself, those of one field name included. -/
def deviceNames (model : Model) : List String :=
  model.mappings.features.flatMap (fun f => f.structs.map (·.name)) ++ model.mappings.independent
    ++ model.rules.deviceStructs

/-- Different structs that the device holds itself have different fields. -/
def DistinctFields (model : Model) : Prop :=
  ∀ a ∈ deviceNames model, ∀ b ∈ deviceNames model,
    Naming.structField a = Naming.structField b → a = b

/-- Where different structs have different fields, each one is declared. -/
lemma mem_distinct_fields {f : String → String} {names : List String}
    (inj : ∀ a ∈ names, ∀ b ∈ names, f a = f b → a = b) {name : String} (mem : name ∈ names) :
    (⟨name, f name⟩ : Field) ∈ distinctOn (·.name) (names.map fun name => ⟨name, f name⟩) := by
  refine mem_distinctOn ?_ (List.mem_map.2 ⟨name, mem, rfl⟩)
  intro a memA b memB same
  obtain ⟨x, memX, rfl⟩ := List.mem_map.1 memA
  obtain ⟨y, memY, rfl⟩ := List.mem_map.1 memB
  rw [inj x memX y memY same]

/-- Where no two structs of the device share a field name, each of them has its field. -/
lemma mem_deviceStructs (distinct : DistinctFields model) {name : String}
    (mem : name ∈ deviceNames model) : ⟨name, Naming.structField name⟩ ∈ deviceStructs model :=
  mem_distinct_fields distinct mem

/-- A slot is an entry of a group, a feature or an extension. -/
lemma mem_slots {s : Slot} :
    s ∈ slots m ↔ match s.place with
      | .core g => g ∈ m.coreGroups ∧ s.entry ∈ g.structs
      | .feature f => f ∈ m.features ∧ s.entry ∈ f.structs
      | .extension x => x ∈ m.extensions ∧ s.entry ∈ x.structs := by
  obtain ⟨e, place⟩ := s
  cases place <;> simp [slots, extensionSlots]

/-- The records name their fields after the structs. -/
lemma name_of_mem_holder {place : Place} {field : Field} (mem : field ∈ (holder model place).1.structs) :
    field.name = place.field field.typeName := by
  cases place with
  | core g =>
    obtain ⟨e, _, rfl⟩ := List.mem_map.1 mem
    rfl
  | feature f =>
    have held : field ∈ (deviceNames model).map fun name => ⟨name, Naming.structField name⟩ :=
      distinctOn_subset mem
    obtain ⟨name, _, rfl⟩ := List.mem_map.1 held
    dsimp only
    rfl
  | extension x =>
    obtain ⟨e, _, rfl⟩ := List.mem_map.1 mem
    dsimp only
    rfl

/-- The record of a slot declares its struct. -/
lemma mem_holder (distinct : DistinctFields model) {s : Slot} (mem : s ∈ slots model.mappings) :
    ⟨s.entry.name, s.place.field s.entry.name⟩ ∈ (holder model s.place).1.structs := by
  obtain ⟨e, place⟩ := s
  cases place with
  | core g => exact List.mem_map.2 ⟨e, (mem_slots.1 mem).2, rfl⟩
  | extension x => exact List.mem_map.2 ⟨e, (mem_slots.1 mem).2, rfl⟩
  | feature f =>
    obtain ⟨listed, held⟩ := mem_slots.1 mem
    refine mem_deviceStructs distinct (List.mem_append_left _ (List.mem_append_left _ ?_))
    exact List.mem_flatMap.2 ⟨f, listed, List.mem_map.2 ⟨e, held, rfl⟩⟩

/-- The record of a slot declares its struct at one path. -/
lemma declares_iff (distinct : DistinctFields model) {s : Slot} (mem : s ∈ slots model.mappings)
    {path : String} :
    Declares model s path ↔
      path = (holder model s.place).2 ++ "." ++ s.place.field s.entry.name := by
  constructor
  · intro h
    obtain ⟨field, held, same, rfl⟩ := h
    rw [name_of_mem_holder held, same]
  · rintro rfl
    exact ⟨_, mem_holder distinct mem, rfl, rfl⟩

/-! ## Chains -/

/-- Every head is one of all heads. -/
lemma mem_all (head : ChainHead) : head ∈ ChainHead.all := by
  cases head <;> decide

/-- One chain is chosen when it is the only one that fits. -/
lemma filter_all_eq_singleton {p : ChainHead → Bool} {head : ChainHead} :
    ChainHead.all.filter p = [head] ↔ ∀ h, p h ↔ h = head := by
  constructor
  · intro only h
    have chosen : h ∈ ChainHead.all.filter p ↔ h ∈ [head] := by rw [only]
    rwa [List.mem_filter, and_iff_right (mem_all h), List.mem_singleton] at chosen
  · intro only
    have same : ChainHead.all.filter p = ChainHead.all.filter (· == head) :=
      List.filter_congr fun h _ => by rw [Bool.eq_iff_iff, only, beq_iff_eq]
    rw [same]
    cases head <;> rfl

/-- A slot is sound when it chooses the one chain whose head it lists, and links the struct under the
field that declares it. -/
lemma sound_iff {s : Slot} :
    Sound m s ↔ ∃ head, (∀ h, Lists m s.entry.name h ↔ h = head) ∧ s.heads m = [head] ∧
      s.place.linkedField head s.entry.name = s.place.field s.entry.name := by
  obtain ⟨e, place⟩ := s
  apply exists_congr
  intro head
  apply and_congr_right
  intro lists
  have joined : joins m e.name head := joins_of_lists ((lists head).2 rfl)
  cases place with
  | core g =>
    have chosen : Slot.heads m ⟨e, .core g⟩ = [head] ↔
        (joins m e.name .features → head = .features) := by
      show [if joins m e.name .features then ChainHead.features else .properties] = [head] ↔ _
      rw [List.singleton_inj]
      split
      next features => exact ⟨fun h _ => h.symm, fun h => (h features).symm⟩
      next apart =>
        constructor
        · intro _ features
          exact (apart features).elim
        · intro _
          cases head with
          | properties => rfl
          | features => exact (apart joined).elim
    rw [chosen]
    exact and_comm.trans (and_congr_right' eq_comm)
  | feature f =>
    have chosen : Slot.heads m ⟨e, .feature f⟩ = [head] ↔
        ∀ h, Text.contains e.name h.category ↔ h = head :=
      filter_all_eq_singleton (p := fun h => Text.contains e.name h.category)
    rw [chosen]
    exact (and_iff_left rfl).symm
  | extension x =>
    have chosen : Slot.heads m ⟨e, .extension x⟩ = [head] ↔ ∀ h, joins m e.name h ↔ h = head :=
      filter_all_eq_singleton
    rw [chosen]
    apply Iff.trans _ (and_iff_left rfl).symm
    apply forall_congr'
    intro h
    constructor
    · intro only
      exact ⟨only, fun same => same ▸ joined⟩
    · exact Iff.mp

/-! ## The exact condition -/

/-- The slots are those of all entries, in their order. -/
lemma entries_eq : (slots m).map (·.entry) = m.entries := by
  simp [slots, extensionSlots, Mappings.entries, Mappings.ClaimContext.entries, List.map_flatMap,
    Function.comp_def]

/-- The links of an entry are those of its slots. -/
lemma filter_links {links : List ChainLink} (perm : links.Perm ((slots m).flatMap (Slot.links m)))
    (e : StructEntry) :
    (links.filter (·.entry == e)).Perm
      (((slots m).filter (·.entry == e)).flatMap (Slot.links m)) := by
  apply (perm.filter _).trans
  apply List.Perm.of_eq
  -- all links of a slot have its entry, so that the filter keeps all of them or none
  induction slots m with
  | nil => rfl
  | cons s rest ih =>
    rw [List.flatMap_cons, List.filter_append, ih, List.filter_cons]
    split
    next same =>
      rw [List.flatMap_cons, List.filter_eq_self.2]
      intro l mem
      obtain ⟨head, _, rfl⟩ := List.mem_map.1 mem
      exact same
    next differ =>
      rw [List.filter_eq_nil_iff.2, List.nil_append]
      intro l mem
      obtain ⟨head, _, rfl⟩ := List.mem_map.1 mem
      exact differ

/-- Where entries do not repeat, an entry is linked rightly when its slot is sound. -/
lemma rightlyLinked_iff_sound (distinct : DistinctFields model) (nodup : model.mappings.entries.Nodup)
    {links : List ChainLink}
    (perm : links.Perm ((slots model.mappings).flatMap (Slot.links model.mappings))) {s : Slot}
    (mem : s ∈ slots model.mappings) :
    RightlyLinked model links s ↔ Sound model.mappings s := by
  have linked : (links.filter (·.entry == s.entry)).Perm (s.links model.mappings) := by
    apply (filter_links perm s.entry).trans
    rw [filter_eq_singleton (entries_eq ▸ nodup) mem, List.flatMap_singleton]
  rw [sound_iff]
  constructor
  · intro h
    obtain ⟨path, head, declared, single, lists⟩ := h
    rw [single, List.singleton_perm] at linked
    obtain ⟨head, chosen, same⟩ := List.map_eq_singleton_iff.1 linked.symm
    cases same
    rw [declares_iff distinct mem, path_eq, String.append_right_inj] at declared
    exact ⟨_, lists, chosen, declared⟩
  · intro h
    obtain ⟨head, lists, chosen, same⟩ := h
    refine ⟨s.path head, head, ?_, ?_, lists⟩
    · rw [declares_iff distinct mem, path_eq, same]
    · rw [← List.perm_singleton]
      apply linked.trans
      rw [Slot.links, chosen, List.map_singleton]

section necessary
variable {disabled : DisabledSet} {closure : DependencyClosure} {blocks : List ChainBlock}

/-- A core entry is made of the name of a core struct. -/
lemma exists_coreEntry (built : Mappings.Built reg disabled closure rules m) {e : StructEntry}
    {g : CoreGroup} (core : ⟨e, .core g⟩ ∈ slots m) :
    ∃ c ∈ Mappings.ownCore reg disabled rules, Mappings.coreEntry c = e := by
  obtain ⟨listed, held⟩ := mem_slots.1 core
  apply List.mem_map.1
  apply Mappings.coreGroups_perm.mem_iff.1
  rw [← built.coreGroups]
  exact List.mem_flatMap.2 ⟨g, listed, held⟩

/-- The name of a core entry tells the category of a chain. -/
lemma contains_category_of_core (built : Mappings.Built reg disabled closure rules m) {e : StructEntry}
    {g : CoreGroup} (core : ⟨e, .core g⟩ ∈ slots m) :
    ∃ head : ChainHead, Text.contains e.name head.category := by
  obtain ⟨c, own, rfl⟩ := exists_coreEntry built core
  obtain ⟨name, _, named⟩ := List.mem_filterMap.1 own
  obtain ⟨v, versioned, rfl⟩ := Option.map_eq_some_iff.1 named
  have contained := CoreVersion.contains_category versioned
  rcases (CoreVersion.ofName?_eq_some_iff.1 versioned).category with category | category
  · rw [category] at contained
    exact ⟨.properties, contained⟩
  · rw [category] at contained
    exact ⟨.features, contained⟩

/-- A core entry mentions the head of a chain. -/
lemma joins_of_core (done : chainBlocks m = .ok blocks) {e : StructEntry} {g : CoreGroup}
    (core : ⟨e, .core g⟩ ∈ slots m) : ∃ head, joins m e.name head := by
  obtain ⟨listed, held⟩ := mem_slots.1 core
  obtain ⟨_, groups, _⟩ := bind_eq_ok.1 done
  obtain ⟨_, group⟩ := ok_of_mapM groups listed
  obtain ⟨_, links, _⟩ := bind_eq_ok.1 group
  obtain ⟨_, linked⟩ := ok_of_mapM links held
  obtain ⟨head, found, _⟩ := bind_eq_ok.1 linked
  exact ⟨head, (coreHead_eq_ok.1 found).1⟩

/-- A core entry is linked from every place where it stands. -/
lemma links_ne_nil_of_core (built : Mappings.Built reg disabled closure rules m)
    (done : chainBlocks m = .ok blocks) {g : CoreGroup} {s : Slot}
    (core : ⟨s.entry, .core g⟩ ∈ slots m) : s.links m ≠ [] := by
  suffices chosen : ∃ head, head ∈ s.heads m by
    obtain ⟨head, chosen⟩ := chosen
    exact List.ne_nil_of_mem (List.mem_map_of_mem chosen)
  obtain ⟨e, place⟩ := s
  cases place with
  | core g' => exact ⟨_, List.mem_singleton_self _⟩
  | feature f =>
    obtain ⟨head, contained⟩ := contains_category_of_core built core
    exact ⟨head, List.mem_filter.2 ⟨mem_all head, contained⟩⟩
  | extension x =>
    obtain ⟨head, joined⟩ := joins_of_core done core
    exact ⟨head, List.mem_filter.2 ⟨mem_all head, joined⟩⟩

/-- Where all entries are linked rightly, they do not repeat. -/
lemma nodup_of_rightlyLinked (built : Mappings.Built reg disabled closure rules model.mappings)
    (done : chainBlocks model.mappings = .ok blocks)
    (right : ∀ s ∈ slots model.mappings, RightlyLinked model (blocks.flatMap (·.links)) s) :
    model.mappings.entries.Nodup := by
  rw [List.nodup_iff_count_le_one]
  intro e
  by_cases core : ∃ g, ⟨e, .core g⟩ ∈ slots model.mappings
  -- each place of a core entry adds a link, and there is one link
  · obtain ⟨g, mem⟩ := core
    obtain ⟨path, head, _, single, _⟩ := right _ mem
    let repeated := (slots model.mappings).filter (·.entry == e)
    have linked := filter_links (links_perm done) e
    calc model.mappings.entries.count e
      _ = repeated.length := by
        rw [← entries_eq, List.count, List.countP_map, List.countP_eq_length_filter]
        rfl
      _ ≤ (repeated.flatMap (Slot.links model.mappings)).length := by
        apply length_le_length_flatMap
        intro s listed
        have same : s.entry = e := beq_iff_eq.1 (List.mem_filter.1 listed).2
        exact links_ne_nil_of_core built done (same ▸ mem)
      _ = ((blocks.flatMap (·.links)).filter (·.entry == e)).length := linked.length_eq.symm
      _ = 1 := by rw [single, List.length_singleton]
  -- any other entry stands in features and extensions only, and they claim each struct once
  · have apart : e ∉ model.mappings.coreGroups.flatMap (·.structs) := by
      intro mem
      obtain ⟨g, listed, held⟩ := List.mem_flatMap.1 mem
      exact core ⟨g, mem_slots.2 ⟨listed, held⟩⟩
    rw [Mappings.entries, List.append_assoc, List.count_append, List.count_eq_zero_of_not_mem apart,
      Nat.zero_add]
    exact List.nodup_iff_count_le_one.1 (Mappings.nodup_requirers built) e

end necessary

/-- All entries are linked rightly exactly when none is entered twice and each one is sound at its
place. None is entered twice where the registry declares no struct twice. -/
theorem rightlyLinked_iff (made : Model.ofRegistry reg rules = .ok model) {header : Traversal}
    (done : ofModel model = .ok header) (distinct : DistinctFields model) :
    ((∀ s ∈ slots model.mappings, RightlyLinked model (header.chains.flatMap (·.links)) s) ↔
        model.mappings.entries.Nodup ∧ ∀ s ∈ slots model.mappings, Sound model.mappings s) ∧
      (reg.structNames.Nodup → model.mappings.entries.Nodup) := by
  obtain ⟨chains, linked, done⟩ := bind_eq_ok.1 done
  cases done
  have built := Mappings.built_of_build (Model.made_of_ofRegistry made).mappings
  have perm := links_perm linked
  refine ⟨⟨?_, ?_⟩, fun distinct => Mappings.nodup_entries distinct built⟩
  · intro right
    have nodup := nodup_of_rightlyLinked built linked right
    exact ⟨nodup, fun s mem => (rightlyLinked_iff_sound distinct nodup perm mem).1 (right s mem)⟩
  · rintro ⟨nodup, sound⟩ s mem
    exact (rightlyLinked_iff_sound distinct nodup perm mem).2 (sound s mem)

/-- A core version requires a features struct whose name tells of properties, too. -/
def tiles : Registry where
  structs := [
    { name := "VkPhysicalDeviceTilePropertiesFeatures", extended := some "VkPhysicalDeviceFeatures2",
      typeTag := some "VK_STRUCTURE_TYPE_PHYSICAL_DEVICE_TILE_PROPERTIES_FEATURES", members := [] }]
  features := [
    { name := "VK_VERSION_1_4", api := "vulkan",
      requires := ⟨["VkPhysicalDeviceTilePropertiesFeatures"], []⟩ }]

/-- The entry of the struct. -/
def tileEntry : StructEntry where
  name := "VkPhysicalDeviceTilePropertiesFeatures"
  typeTag := "VK_STRUCTURE_TYPE_PHYSICAL_DEVICE_TILE_PROPERTIES_FEATURES"

/-- The model of the registry has one slot, and its header two links. -/
lemma tiles_header :
    ∃ model header, Model.ofRegistry tiles {} = .ok model ∧ ofModel model = .ok header ∧
      DistinctFields model ∧
      slots model.mappings = [⟨tileEntry, .feature ⟨"VK_VERSION_1_4", [tileEntry]⟩⟩] ∧
      header.chains.flatMap (·.links) =
        [⟨tileEntry, "device.tile_properties_features", .properties⟩,
          ⟨tileEntry, "device.tile_properties_features", .features⟩] := by
  have closed : DependencyClosure.compute tiles (DisabledSet.compute tiles {}) {} =
      .ok { order := [⟨"VkPhysicalDeviceTilePropertiesFeatures", false⟩] } := by
    decide +kernel
  obtain ⟨m, built, core, features, extensions, independent⟩ :
      ∃ m, Mappings.build tiles (DisabledSet.compute tiles {})
          { order := [⟨"VkPhysicalDeviceTilePropertiesFeatures", false⟩] } {} = .ok m ∧
        m.coreGroups = [] ∧ m.features = [⟨"VK_VERSION_1_4", [tileEntry]⟩] ∧ m.extensions = [] ∧
        m.independent = [] := by
    refine ⟨_, rfl, ?_, ?_, ?_, ?_⟩ <;> decide +kernel
  let blocks : List ChainBlock := [⟨some (.version "1_4"), none,
    [⟨tileEntry, "device.tile_properties_features", .properties⟩,
      ⟨tileEntry, "device.tile_properties_features", .features⟩]⟩]
  have version : [(⟨"VK_VERSION_1_4", [tileEntry]⟩ : Requirer)].mapM featureBlock = .ok blocks := by
    decide +kernel
  have linked : chainBlocks m = .ok blocks := by
    unfold chainBlocks
    rw [core, features, extensions]
    exact bind_eq_ok.2 ⟨[], rfl, bind_eq_ok.2 ⟨blocks, version, rfl⟩⟩
  let model : Model := ⟨{}, tiles, DisabledSet.compute tiles {},
    { order := [⟨"VkPhysicalDeviceTilePropertiesFeatures", false⟩] }, m⟩
  have made : Model.ofRegistry tiles {} = .ok model := Model.ofRegistry_of_parts closed built
  obtain ⟨header, done, chains⟩ : ∃ header, ofModel model = .ok header ∧ header.chains = blocks :=
    exists_header linked
  refine ⟨model, header, made, done, ?_, ?_, ?_⟩
  · have names : deviceNames model = tileEntry.name :: ({} : Rules).deviceStructs := by
      rw [deviceNames, features, independent]
      rfl
    rw [DistinctFields, names]
    decide +kernel
  · rw [slots, extensionSlots, core, features, extensions]
    rfl
  · rw [chains]
    rfl

/-- The statement applies here: the one struct of the device shares its field name with no other. -/
theorem rightlyLinked_iff_tiles :
    ∃ model header, Model.ofRegistry tiles {} = .ok model ∧ ofModel model = .ok header ∧
      DistinctFields model ∧
      ((∀ s ∈ slots model.mappings, RightlyLinked model (header.chains.flatMap (·.links)) s) ↔
          model.mappings.entries.Nodup ∧ ∀ s ∈ slots model.mappings, Sound model.mappings s) ∧
        (tiles.structNames.Nodup → model.mappings.entries.Nodup) := by
  obtain ⟨model, header, made, done, distinct, _⟩ := tiles_header
  exact ⟨model, header, made, done, distinct, rightlyLinked_iff made done distinct⟩

/-- A struct whose name tells of both chains is linked into both. -/
theorem not_rightlyLinked_tiles :
    ∃ model header, Model.ofRegistry tiles {} = .ok model ∧ ofModel model = .ok header ∧
      DistinctFields model ∧ ∃ s ∈ slots model.mappings,
        ¬ RightlyLinked model (header.chains.flatMap (·.links)) s := by
  obtain ⟨model, header, made, done, distinct, all, links⟩ := tiles_header
  refine ⟨model, header, made, done, distinct, _, all ▸ List.mem_singleton_self _, ?_⟩
  intro h
  obtain ⟨path, head, _, single, _⟩ := h
  rw [links] at single
  cases single

end CapabilityRegistry.Traversal
