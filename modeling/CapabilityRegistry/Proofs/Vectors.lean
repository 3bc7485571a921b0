import CapabilityRegistry.Proofs.Distinct
import CapabilityRegistry.Proofs.Mappings.Partition
import CapabilityRegistry.Proofs.Model
import CapabilityRegistry.Proofs.Traversal
import CapabilityRegistry.Traversal.Printer

/-!
# Vectors of list members

A record declares one vector for all of its list members that have the same companion name, while
resizing attaches every list by itself. So a header declares a vector for every list that it attaches
(`exists_declaration`), but that vector is the list's own only where the record keeps its companion names
apart: `unshared_declared_iff` reduces both to what each record says.
-/

namespace CapabilityRegistry.Traversal

/-! ## Records and their places -/

/-- A record with the path that leads to it. -/
structure Owner where
  path : String
  record : Record
  deriving DecidableEq

/-- The record of the device, and the records that it holds. -/
def owners (header : Traversal) : List Owner :=
  ⟨"device", header.device⟩ ::
    List.zipWith (fun part record => ⟨"device." ++ part.name, record⟩) header.device.parts
      (header.coreRecords ++ header.wrappers)

/-- The lists that are attached to vectors, with the blocks that do it. -/
def attachments (header : Traversal) : List (ResizeBlock × ListMember) :=
  header.resizes.flatMap fun block => block.lists.map (block, ·)

/-- No vector is attached to two lists, be they of one struct or of two. -/
def Unshared (header : Traversal) : Prop :=
  ∀ a ∈ header.attachments, ∀ b ∈ header.attachments,
    a.1.vectorPath a.2 = b.1.vectorPath b.2 → a.1.path = b.1.path ∧ a.2 = b.2

/-- Every attached vector is declared in its record with the element type of the list. -/
def Declared (header : Traversal) : Prop :=
  ∀ a ∈ header.attachments, ∃ o ∈ header.owners, o.path = a.1.owner ∧ vectorField a.2 ∈ o.record.vectors

/-- A path leads to one record, and a vector is named by the last step of its path. -/
structure PathsApart (header : Traversal) : Prop where
  owners : (header.owners.map (·.path)).Nodup
  names : ∀ o ∈ header.owners, ∀ v ∈ o.record.vectors, '.' ∉ v.name.toList

namespace Record
variable (m : Mappings) (r : Record)

/-- The list members for which a record has vectors. -/
def lists : List ListMember :=
  r.structs.flatMap fun f => listMembers m f.typeName

/-- The list members that are attached, with the fields of their structs. -/
def attached : List (Field × ListMember) :=
  (r.structs.filter fun f => joins m f.typeName .properties).flatMap fun f =>
    (listMembers m f.typeName).map (f, ·)

/-- Attached lists of one companion name are one, and the first list that has the name has its type. -/
def Separate : Prop :=
  (∀ p ∈ r.attached m, ∀ q ∈ r.attached m, (vectorField p.2).name = (vectorField q.2).name →
      p.1.name = q.1.name ∧ p.2 = q.2) ∧
    ∀ p ∈ r.attached m,
      ∀ first ∈ (r.lists m).find? fun l => (vectorField l).name == (vectorField p.2).name,
        first.typeName = p.2.typeName

end Record

/-! ## What the records of a header are -/

variable {model : Model} {header : Traversal}

/-- The records that a model asks for: that of the device, those of core groups and the wrappers. -/
def modelOwners (model : Model) : List Owner :=
  let m := model.mappings
  ⟨"device", deviceRecord model⟩ ::
    (m.coreGroups.map (fun g => ⟨"device." ++ coreGroupField g, coreRecord m g⟩)
      ++ m.extensions.map fun e => ⟨"device." ++ Naming.extensionField e.name, wrapperRecord m e⟩)

/-- The records of a header are those of its model. -/
lemma owners_eq (done : ofModel model = .ok header) : header.owners = modelOwners model := by
  have written := written_of_ofModel done
  -- the parts of the device stand in the order of their records
  rw [owners, written.device, written.coreRecords, written.wrappers]
  simp only [deviceRecord]
  rw [List.zipWith_append (by simp), List.zipWith_map, List.zipWith_map, List.zipWith_self,
    List.zipWith_self]
  rfl

/-- The vectors of a record are made from its lists. -/
lemma vectors_eq (done : ofModel model = .ok header) {o : Owner} (mem : o ∈ header.owners) :
    o.record.vectors = distinctOn (·.name) ((o.record.lists model.mappings).map vectorField) := by
  rw [owners_eq done] at mem
  simp only [modelOwners, List.mem_cons, List.mem_append, List.mem_map] at mem
  obtain rfl | ⟨g, _, rfl⟩ | ⟨e, _, rfl⟩ := mem
  · simp only [deviceRecord, vectorFields, Record.lists, List.flatMap_map]
  · simp only [coreRecord, vectorFields, Record.lists, List.flatMap_map]
  · simp only [wrapperRecord, vectorFields, Record.lists, List.flatMap_map]

/-- The blocks of a header are those of the fields of its records. -/
lemma mem_resizes_iff (done : ofModel model = .ok header) {b : ResizeBlock} :
    b ∈ header.resizes ↔ ∃ o ∈ header.owners, ∃ f ∈ o.record.structs,
      resizeBlock? model.mappings o.path f.typeName f.name = some b := by
  rw [(written_of_ofModel done).resizes, owners_eq done]
  simp only [resizeBlocks, modelOwners, deviceRecord, coreRecord, wrapperRecord, List.mem_append,
    List.mem_flatMap, List.mem_filterMap, List.mem_cons, List.mem_map, or_and_right, exists_or,
    exists_eq_left, exists_exists_and_eq_and]
  exact or_assoc.trans or_left_comm

/-- A struct has a block that resizes where it is one of properties and has lists. -/
lemma resizeBlock?_eq_some_iff {m : Mappings} {owner name field : String} {b : ResizeBlock} :
    resizeBlock? m owner name field = some b ↔
      joins m name .properties = true ∧ listMembers m name ≠ [] ∧
        ⟨owner, owner ++ "." ++ field, listMembers m name⟩ = b := by
  simp [resizeBlock?, and_assoc]

/-! ## What is attached -/

/-- A list is attached to a record where a struct of properties in it has the list. -/
lemma Record.mem_attached {m : Mappings} {r : Record} {f : Field} {l : ListMember} :
    (f, l) ∈ r.attached m ↔
      f ∈ r.structs ∧ joins m f.typeName .properties = true ∧ l ∈ listMembers m f.typeName := by
  simp [Record.attached, and_assoc]

/-- What is attached is one of the lists of the record. -/
lemma Record.mem_lists_of_attached {m : Mappings} {r : Record} {p : Field × ListMember}
    (mem : p ∈ r.attached m) : p.2 ∈ r.lists m := by
  obtain ⟨held, _, listed⟩ := mem_attached.1 mem
  exact List.mem_flatMap.2 ⟨p.1, held, listed⟩

/-- How a list is attached in a record, with the block of its struct. -/
def Owner.attachment (m : Mappings) (o : Owner) (p : Field × ListMember) : ResizeBlock × ListMember :=
  (⟨o.path, o.path ++ "." ++ p.1.name, listMembers m p.1.typeName⟩, p.2)

/-- What a header attaches is what its records attach. -/
lemma mem_attachments_iff (done : ofModel model = .ok header) {a : ResizeBlock × ListMember} :
    a ∈ header.attachments ↔ ∃ o ∈ header.owners, ∃ p ∈ o.record.attached model.mappings,
      o.attachment model.mappings p = a := by
  simp only [attachments, List.mem_flatMap, List.mem_map]
  constructor
  · intro h
    obtain ⟨b, resized, l, listed, rfl⟩ := h
    obtain ⟨o, held, f, field, block⟩ := (mem_resizes_iff done).1 resized
    obtain ⟨joined, _, rfl⟩ := resizeBlock?_eq_some_iff.1 block
    exact ⟨o, held, (f, l), Record.mem_attached.2 ⟨field, joined, listed⟩, rfl⟩
  · intro h
    obtain ⟨o, held, p, attached, rfl⟩ := h
    obtain ⟨field, joined, listed⟩ := Record.mem_attached.1 attached
    have block : resizeBlock? model.mappings o.path p.1.typeName p.1.name =
        some (o.attachment model.mappings p).1 :=
      resizeBlock?_eq_some_iff.2 ⟨joined, List.ne_nil_of_mem listed, rfl⟩
    exact ⟨_, (mem_resizes_iff done).2 ⟨o, held, p.1, field, block⟩, p.2, listed, rfl⟩

/-- A vector of its name is declared for each attached list. -/
lemma mem_names_of_attached (done : ofModel model = .ok header) {o : Owner} (held : o ∈ header.owners)
    {p : Field × ListMember} (attached : p ∈ o.record.attached model.mappings) :
    (vectorField p.2).name ∈ o.record.vectors.map (·.name) := by
  rw [vectors_eq done held, mem_map_distinctOn]
  exact List.mem_map_of_mem (List.mem_map_of_mem (Record.mem_lists_of_attached attached))

/-- Every attached vector is declared in its record, once. -/
theorem exists_declaration (done : ofModel model = .ok header) {a : ResizeBlock × ListMember}
    (mem : a ∈ header.attachments) : ∃ o ∈ header.owners, o.path = a.1.owner ∧
      ∃ v, o.record.vectors.filter (·.name == (vectorField a.2).name) = [v] := by
  obtain ⟨o, held, p, attached, rfl⟩ := (mem_attachments_iff done).1 mem
  obtain ⟨v, declared, same⟩ := List.mem_map.1 (mem_names_of_attached done held attached)
  refine ⟨o, held, rfl, v, ?_⟩
  show o.record.vectors.filter (·.name == (vectorField p.2).name) = [v]
  rw [← same]
  apply filter_eq_singleton _ declared
  rw [vectors_eq done held]
  exact nodup_map_distinctOn

/-- A list has a vector of its type exactly when the first list of its companion name has the type. -/
lemma mem_vectors_iff (done : ofModel model = .ok header) {o : Owner} (held : o ∈ header.owners)
    {p : Field × ListMember} (attached : p ∈ o.record.attached model.mappings) :
    vectorField p.2 ∈ o.record.vectors ↔ ∀ first ∈ (o.record.lists model.mappings).find?
      fun l => (vectorField l).name == (vectorField p.2).name, first.typeName = p.2.typeName := by
  rw [vectors_eq done held, mem_distinctOn_iff, List.find?_map, Option.map_eq_some_iff]
  constructor
  · intro h first found
    obtain ⟨_, found', same⟩ := h
    cases found.symm.trans found'
    exact congrArg Field.typeName same
  · intro typed
    cases found : (o.record.lists model.mappings).find?
        fun l => (vectorField l).name == (vectorField p.2).name with
    | none =>
      have absent := List.find?_eq_none.1 found p.2 (Record.mem_lists_of_attached attached)
      simp at absent
    | some first =>
      have name : (vectorField first).name = (vectorField p.2).name := by
        simpa using List.find?_some found
      refine ⟨first, found, ?_⟩
      show (⟨first.typeName, (vectorField first).name⟩ : Field) = vectorField p.2
      rw [typed first found, name]
      rfl

/-! ## Paths -/

/-- What follows the last dot of a text. -/
lemma takeWhile_reverse {cs name : List Char} (plain : '.' ∉ name) :
    (cs ++ '.' :: name).reverse.takeWhile (· != '.') = name.reverse := by
  have all : ∀ c ∈ name.reverse, (c != '.') = true := by
    intro c mem
    apply bne_iff_ne.2
    rintro rfl
    exact plain (List.mem_reverse.1 mem)
  rw [List.reverse_append, List.reverse_cons, List.append_assoc, List.takeWhile_append_of_pos all]
  exact List.append_nil _

/-- Paths that are equal have equal last steps, where these have no dots. -/
lemma append_dot_inj {path path' name name' : String} (plain : '.' ∉ name.toList)
    (plain' : '.' ∉ name'.toList) (same : path ++ "." ++ name = path' ++ "." ++ name') :
    path = path' ∧ name = name' := by
  have chars : path.toList ++ '.' :: name.toList = path'.toList ++ '.' :: name'.toList := by
    simpa using congrArg String.toList same
  have last : name = name' := by
    apply String.toList_injective
    apply List.reverse_injective
    rw [← takeWhile_reverse plain, chars, takeWhile_reverse plain']
  subst last
  exact ⟨String.toList_injective (List.append_cancel_right chars), rfl⟩

/-! ## Shared and foreign vectors -/

/-- The attached vectors are unshared and declared with the types of their lists exactly when each record
keeps the companion names of its lists apart. -/
theorem unshared_declared_iff (done : ofModel model = .ok header) (apart : header.PathsApart) :
    header.Unshared ∧ header.Declared ↔ ∀ o ∈ header.owners, o.record.Separate model.mappings := by
  let m := model.mappings
  have one : ∀ o ∈ header.owners, ∀ o' ∈ header.owners, o.path = o'.path → o = o' :=
    fun o held o' held' same => List.inj_on_of_nodup_map apart.owners held held' same
  have plain : ∀ o ∈ header.owners, ∀ p ∈ o.record.attached m, '.' ∉ (vectorField p.2).name.toList := by
    intro o held p attached
    obtain ⟨v, declared, same⟩ := List.mem_map.1 (mem_names_of_attached done held attached)
    exact same ▸ apart.names o held v declared
  constructor
  · intro h o held
    obtain ⟨unshared, declared⟩ := h
    constructor
    · intro p attached q attached' same
      -- both are attached below the path of the record, so that one name is one vector
      have first := (mem_attachments_iff done).2 ⟨o, held, p, attached, rfl⟩
      have second := (mem_attachments_iff done).2 ⟨o, held, q, attached', rfl⟩
      obtain ⟨path, list⟩ := unshared _ first _ second (congrArg (o.path ++ "." ++ ·) same)
      exact ⟨(String.append_right_inj _).1 path, list⟩
    · intro p attached first found
      have listed := (mem_attachments_iff done).2 ⟨o, held, p, attached, rfl⟩
      obtain ⟨o', held', path, vector⟩ := declared _ listed
      -- the vector may be declared in any record at the path, which is this one
      cases one o' held' o held path
      exact (mem_vectors_iff done held attached).1 vector first found
  · intro separate
    constructor
    · intro a attached b attached' same
      obtain ⟨o, held, p, listed, rfl⟩ := (mem_attachments_iff done).1 attached
      obtain ⟨o', held', q, listed', rfl⟩ := (mem_attachments_iff done).1 attached'
      obtain ⟨path, name⟩ := append_dot_inj (plain o held p listed) (plain o' held' q listed') same
      cases one o held o' held' path
      obtain ⟨field, list⟩ := (separate o held).1 p listed q listed' name
      exact ⟨congrArg (o.path ++ "." ++ ·) field, list⟩
    · intro a attached
      obtain ⟨o, held, p, listed, rfl⟩ := (mem_attachments_iff done).1 attached
      exact ⟨o, held, rfl, (mem_vectors_iff done held listed).2 ((separate o held).2 p listed)⟩

/-- A properties struct with one list. -/
def listing (name tag element list : String) : StructDecl where
  name := name
  extended := some "VkPhysicalDeviceProperties2"
  typeTag := some tag
  members := [
    { name := "layoutCount", typeName := "uint32_t", cType := "uint32_t", isConst := false,
      pointerDepth := 0 },
    { name := list, typeName := element, cType := element ++ "*", isConst := false, pointerDepth := 1,
      lenAttr := some "layoutCount" }]

/-- An extension requires two properties structs with one list each. -/
def twoLists (second : String) : Registry where
  structs := [
    listing "VkPhysicalDeviceHostProperties" "VK_STRUCTURE_TYPE_PHYSICAL_DEVICE_HOST_PROPERTIES"
      "VkImageLayout" "pLayouts",
    listing "VkPhysicalDeviceTileProperties" "VK_STRUCTURE_TYPE_PHYSICAL_DEVICE_TILE_PROPERTIES"
      "VkFormat" second]
  enums := [
    { name := "VkImageLayout", kind := "enum", members := [⟨"VK_IMAGE_LAYOUT_UNDEFINED", .value "0"⟩] },
    { name := "VkFormat", kind := "enum", members := [⟨"VK_FORMAT_UNDEFINED", .value "0"⟩] }]
  extensions := [
    { name := "VK_KHR_layouts", number := some 1, supported := "vulkan",
      requires := ⟨["VkPhysicalDeviceHostProperties", "VkPhysicalDeviceTileProperties"], []⟩ }]

/-- The records of the header: the device and the wrapper of the extension. -/
def layoutOwners (vectors : List Field) : List Owner :=
  [{ path := "device"
     record :=
      { name := "VkJsonDevice"
        structs := [
          ⟨"VkPhysicalDeviceProperties", "properties"⟩, ⟨"VkPhysicalDeviceFeatures", "features"⟩,
          ⟨"VkPhysicalDeviceMemoryProperties", "memory"⟩]
        parts := [⟨"VkJsonKHRLayouts", "khr_layouts"⟩]
        vectors := []
        tail := deviceTail } },
    { path := "device.khr_layouts"
      record :=
      { name := "VkJsonKHRLayouts"
        hasReported := true
        structs := [
          ⟨"VkPhysicalDeviceHostProperties", "host_properties"⟩,
          ⟨"VkPhysicalDeviceTileProperties", "tile_properties"⟩]
        vectors } }]

/-- What resizing attaches in it. -/
def layoutBlocks (second : String) : List ResizeBlock :=
  [⟨"device.khr_layouts", "device.khr_layouts.host_properties",
      [⟨"pLayouts", "VkImageLayout", "layoutCount"⟩]⟩,
    ⟨"device.khr_layouts", "device.khr_layouts.tile_properties", [⟨second, "VkFormat", "layoutCount"⟩]⟩]

/-- The header of the registry: two lists named alike have one vector, otherwise each has its own. -/
lemma twoLists_header {second : String} {vectors : List Field}
    (named : (second = "pLayouts" ∧ vectors = [⟨"VkImageLayout", "layouts"⟩]) ∨
      (second = "pFormats" ∧ vectors = [⟨"VkImageLayout", "layouts"⟩, ⟨"VkFormat", "formats"⟩])) :
    ∃ model header, Model.ofRegistry (twoLists second) {} = .ok model ∧ ofModel model = .ok header ∧
      header.owners = layoutOwners vectors ∧ header.resizes = layoutBlocks second := by
  let reg := twoLists second
  let disabled := DisabledSet.compute reg {}
  let closure : DependencyClosure :=
    { order := [⟨"VkPhysicalDeviceHostProperties", false⟩, ⟨"VkPhysicalDeviceTileProperties", false⟩]
      enums := ["VkImageLayout", "VkFormat"] }
  have closed : DependencyClosure.compute reg disabled {} = .ok closure := by
    rcases named with ⟨rfl, rfl⟩ | ⟨rfl, rfl⟩ <;> decide +kernel
  have all : ∀ name ∈ Mappings.ownNames reg disabled {}, name ∈ Mappings.claimed reg disabled {} := by
    rcases named with ⟨rfl, rfl⟩ | ⟨rfl, rfl⟩ <;> decide +kernel
  have built : Mappings.build reg disabled closure {} = .ok _ := rfl
  -- the sorted list of reportable structs does not evaluate, but the extension has claimed all of them
  have built := Mappings.build_of_claimed built all
  generalize eq : { (_ : Mappings) with independent := [] } = m at built
  let model : Model := ⟨{}, reg, disabled, closure, m⟩
  have evaluated : (chainBlocks m).isOk = true ∧ modelOwners model = layoutOwners vectors ∧
      resizeBlocks model = layoutBlocks second := by
    subst eq
    rcases named with ⟨rfl, rfl⟩ | ⟨rfl, rfl⟩ <;> decide +kernel
  obtain ⟨linked, owners, resizes⟩ := evaluated
  obtain ⟨blocks, linked⟩ := exists_of_isOk linked
  obtain ⟨header, done, _⟩ : ∃ header, ofModel model = .ok header ∧ header.chains = blocks :=
    exists_header linked
  refine ⟨model, header, Model.ofRegistry_of_parts closed built, done, ?_, ?_⟩
  · rw [owners_eq done, owners]
  · rw [(written_of_ofModel done).resizes, resizes]

/-- Two lists of different names have a vector each. -/
theorem unshared_declared_iff_twoLists :
    ∃ model header, Model.ofRegistry (twoLists "pFormats") {} = .ok model ∧
      ofModel model = .ok header ∧ header.PathsApart ∧ header.Unshared ∧ header.Declared ∧
      ∀ o ∈ header.owners, o.record.Separate model.mappings := by
  obtain ⟨model, header, made, done, owners, resizes⟩ := twoLists_header (.inr ⟨rfl, rfl⟩)
  have apart : header.PathsApart := by
    constructor
    all_goals
      rw [owners]
      decide +kernel
  have own : header.Unshared ∧ header.Declared := by
    rw [Unshared, Declared, attachments, owners, resizes]
    decide +kernel
  exact ⟨model, header, made, done, apart, own.1, own.2, (unshared_declared_iff done apart).1 own⟩

/-- Two structs of one extension whose lists are named alike share a vector, which has the type of the
first list. -/
theorem not_unshared_twoLists :
    ∃ model header, Model.ofRegistry (twoLists "pLayouts") {} = .ok model ∧
      ofModel model = .ok header ∧ header.PathsApart ∧ ¬ header.Unshared ∧ ¬ header.Declared := by
  obtain ⟨model, header, made, done, owners, resizes⟩ := twoLists_header (.inl ⟨rfl, rfl⟩)
  refine ⟨model, header, made, done, ⟨?_, ?_⟩, ?_, ?_⟩
  · rw [owners]
    decide +kernel
  · rw [owners]
    decide +kernel
  · rw [Unshared, attachments, resizes]
    decide +kernel
  · rw [Declared, attachments, owners, resizes]
    decide +kernel

end CapabilityRegistry.Traversal
