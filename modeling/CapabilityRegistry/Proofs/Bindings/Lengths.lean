import CapabilityRegistry.Proofs.Bindings.Fields
import CapabilityRegistry.Proofs.Extraction.Representation

/-!
# Constants of array lengths

A field that is an array of a named length refers to a constant. Such a constant is declared exactly where some
entry of the block of constants gives the name a value of its own, or a version has the name
(`length_declared_iff`). An entry that takes its value from another constant declares nothing, so that a length
of that name is not declared (`length_undeclared_alias`).
-/

namespace CapabilityRegistry

open Markup (Element)
open Extraction (apiConstant? apiVersion? constantsBlock hasCategory targetsApi)

/-! ## Constants of a document -/

/-- The entries of the blocks of constants. -/
def constantEntries (root : Element) : List Element :=
  ((root.elementsNamed "enums").filter fun block => block.attr? "name" == some constantsBlock).flatMap
    (·.elementsNamed "enum")

/-- The definitions of a document. -/
def definitions (root : Element) : List Element :=
  (((root.elementsNamed "types").flatMap (·.elementsNamed "type")).filter targetsApi).filter
    (hasCategory "define")

/-- An entry gives a name a value of its own, and not that of another constant. -/
structure GivesValue (e : Element) (name : String) : Prop where
  named : e.attr? "name" = some name
  valued : (e.attr? "value").isSome = true
  unaliased : e.attr? "alias" = none

/-- A definition packs a version under a name. -/
def DefinesVersion (e : Element) (name : String) : Prop :=
  ∃ v, apiVersion? e = some (name, v)

variable {root e : Element} {reg : Registry} {name : String}

/-- The constants and versions of a registry are those of its document. -/
lemma constants_of_ofDocument (read : Registry.ofDocument root = .ok reg) :
    reg.apiConstants = (constantEntries root).filterMap apiConstant? ∧
      reg.apiVersions = (definitions root).filterMap apiVersion? :=
  have readFrom := Extraction.readFrom_of_ofDocument read
  ⟨readFrom.constants, readFrom.versions⟩

/-- An entry makes a constant where it gives the name a value of its own. -/
lemma exists_apiConstant?_iff : (∃ c, apiConstant? e = some c ∧ c.name = name) ↔ GivesValue e name := by
  unfold apiConstant?
  constructor
  · rintro ⟨c, read, rfl⟩
    obtain ⟨name, named, read⟩ := Option.bind_eq_some_iff.1 read
    obtain ⟨_, unaliased, read⟩ := Option.bind_eq_some_iff.1 read
    obtain ⟨value, valued, read⟩ := Option.bind_eq_some_iff.1 read
    cases read
    exact ⟨named, by rw [valued]; rfl, by simpa [guard] using unaliased⟩
  · rintro ⟨named, valued, unaliased⟩
    obtain ⟨value, valued⟩ := Option.isSome_iff_exists.1 valued
    rw [named, valued, unaliased]
    exact ⟨_, rfl, rfl⟩

namespace Bindings

/-! ## Constants of bindings -/

/-- The names of the constants and versions that bindings declare. -/
def constantNames (b : Bindings) : List String :=
  b.constants.map (·.name) ++ b.versions.map (·.1)

/-- A line that declares a constant. -/
def IsConstantLine (line name : String) : Prop :=
  ∃ type value, line = "pub const " ++ name ++ ": " ++ type ++ " = " ++ value ++ ";"

/-- The bindings declare a constant, in a line of its own. -/
def DeclaresConstant (b : Bindings) (name : String) : Prop :=
  name ∈ b.constantNames ∧ ∃ line ∈ b.lines, IsConstantLine line name

variable {b : Bindings} {rules : Rules} {model : Model} {d : StructDecl} {m : Member} {length : String}

/-- The line of a constant declares it. -/
lemma isConstantLine_line {c : ConstantBinding} : IsConstantLine c.line c.name :=
  ⟨c.typeName, c.value, rfl⟩

/-- The line of a version declares a constant of that name. -/
lemma isConstantLine_versionLine {v : String × UInt32} : IsConstantLine (versionLine v) v.1 := by
  have joined : ": u32 = " = ": " ++ "u32" ++ " = " := rfl
  refine ⟨"u32", toString v.2.toNat, ?_⟩
  rw [versionLine, joined]
  simp only [String.append_assoc]

/-- Every constant has a line that declares it. -/
lemma exists_line_of_constant (listed : name ∈ b.constantNames) : ∃ line ∈ b.lines, IsConstantLine line name := by
  have within {line : String} (mem : line ∈ b.constants.map (·.line) ∨ line ∈ b.versions.map versionLine) :
      line ∈ b.lines := by
    simp only [lines, List.mem_append, List.mem_cons]
    tauto
  obtain constant | version := List.mem_append.1 listed
  · obtain ⟨c, bound, rfl⟩ := List.mem_map.1 constant
    exact ⟨c.line, within (.inl (List.mem_map_of_mem bound)), isConstantLine_line⟩
  · obtain ⟨v, bound, rfl⟩ := List.mem_map.1 version
    exact ⟨versionLine v, within (.inr (List.mem_map_of_mem bound)), isConstantLine_versionLine⟩

/-- The constants that bindings declare are those that a document gives values, and its versions. -/
lemma mem_constantNames_iff (read : Registry.ofDocument root = .ok model.registry) (bound : Bound model b) :
    name ∈ b.constantNames ↔
      (∃ e ∈ constantEntries root, GivesValue e name) ∨ ∃ e ∈ definitions root, DefinesVersion e name := by
  obtain ⟨constants, versions⟩ := constants_of_ofDocument read
  rw [constantNames, List.mem_append, bound.constants, bound.versions, constants, versions]
  simp only [List.mem_map, List.mem_filterMap, ← exists_apiConstant?_iff, DefinesVersion]
  refine or_congr ?_ ?_
  · constructor
    · rintro ⟨_, ⟨c, ⟨e, listed, read⟩, rfl⟩, rfl⟩
      exact ⟨e, listed, c, read, rfl⟩
    · rintro ⟨e, listed, c, read, rfl⟩
      exact ⟨constantBinding c, ⟨c, ⟨e, listed, read⟩, rfl⟩, rfl⟩
  · constructor
    · rintro ⟨_, ⟨⟨_, v⟩, ⟨e, listed, read⟩, rfl⟩, rfl⟩
      exact ⟨e, listed, v, read⟩
    · rintro ⟨e, listed, v, read⟩
      exact ⟨(name, v.packed), ⟨(name, v), ⟨e, listed, read⟩, rfl⟩, rfl⟩

/-- A member with an array size has a field that is an array of that length. -/
lemma exists_array (bound : Bound model b) (emitted : Emitted model d) (member : m ∈ d.members)
    (sized : m.arrayLen = some length) :
    ∃ s ∈ b.structs, s.name = d.name ∧
      ∃ item, (fieldName m.name, .array item (.ofText length)) ∈ s.fields := by
  obtain ⟨s, listed, built⟩ := exists_binding bound emitted
  obtain ⟨named, typed, fields⟩ := structBinding_eq_ok built
  obtain ⟨type, typed⟩ := typed m member
  obtain ⟨item, array⟩ : ∃ item, type = .array item (.ofText length) := by
    have known := typed
    unfold memberType at known
    split at known
    next => cases known
    next base found =>
      rw [sized] at known
      cases known
      exact ⟨_, rfl⟩
  exact ⟨s, listed, named, item, (fields _).2 ⟨m, member, rfl, array ▸ typed⟩⟩

/-- The length of an array is declared as a constant where the document gives it a value of its own, or defines
a version of that name, and nowhere else. -/
theorem length_declared_iff (made : Model.build root rules = .ok model) (done : ofModel model = .ok b)
    (emitted : Emitted model d) (member : m ∈ d.members) (sized : m.arrayLen = some length) :
    (∃ s ∈ b.structs, s.name = d.name ∧
      ∃ item, (fieldName m.name, .array item (.ofText length)) ∈ s.fields) ∧
    (DeclaresConstant b length ↔
      (∃ e ∈ constantEntries root, GivesValue e length) ∨
        ∃ e ∈ definitions root, DefinesVersion e length) := by
  obtain ⟨reg, read, made⟩ := bind_eq_ok.1 made
  have registry := (Model.made_of_ofRegistry made).registry
  subst registry
  have bound := bound_of_ofModel done
  refine ⟨exists_array bound emitted member sized, ?_⟩
  rw [← mem_constantNames_iff (mapError_eq_ok.1 read) bound]
  exact ⟨And.left, fun listed => ⟨listed, exists_line_of_constant listed⟩⟩

/-- A member of bytes with an array size. -/
def byteArray (name size : String) : Markup.Node :=
  .element "member" [] [
    .element "type" [] [.text "uint8_t"], .text " ", .element "name" [] [.text name],
    .text "[", .element "enum" [] [.text size], .text "]"]

/-- A document with three sizes among its constants: a value, an alias of one, and a bit position. -/
def sizeDocument : Element where
  name := "registry"
  children := [
    .element "types" [] [
      .element "type" [("category", "struct"), ("name", "VkPhysicalDeviceTileProperties")] [
        byteArray "uuid" "VK_UUID_SIZE", byteArray "luid" "VK_UUID_SIZE_KHR", byteArray "rows" "VK_TILE_ROWS"]],
    .element "enums" [("name", "API Constants")] [
      .element "enum" [("type", "uint32_t"), ("value", "16U"), ("name", "VK_UUID_SIZE")] [],
      .element "enum" [("name", "VK_UUID_SIZE_KHR"), ("alias", "VK_UUID_SIZE")] [],
      .element "enum" [("name", "VK_TILE_ROWS"), ("bitpos", "4")] []]]

/-- The member that is read for one. -/
def byteArrayMember (name size : String) : Member :=
  { Closure.bareMember name "uint8_t" 0 with arrayLen := some size }

/-- The struct of these members. -/
def tileSizes : StructDecl where
  name := "VkPhysicalDeviceTileProperties"
  members := [byteArrayMember "uuid" "VK_UUID_SIZE", byteArrayMember "luid" "VK_UUID_SIZE_KHR",
    byteArrayMember "rows" "VK_TILE_ROWS"]

/-- The registry of the document. -/
def sizeRegistry : Registry where
  structs := [tileSizes]
  apiConstants := [⟨"VK_UUID_SIZE", "16", "uint32_t"⟩]

/-- The document has a model and bindings; of the other two sizes there is no line. -/
lemma sizeDocument_bindings :
    ∃ model b, Model.build sizeDocument {} = .ok model ∧ ofModel model = .ok b ∧ Emitted model tileSizes ∧
      ∀ name ∈ ["VK_UUID_SIZE_KHR", "VK_TILE_ROWS"], ∀ line ∈ b.lines,
        ¬ ("pub const " ++ name).toList <+: line.toList := by
  let disabled := DisabledSet.compute sizeRegistry {}
  let closure : DependencyClosure := { order := [⟨"VkPhysicalDeviceTileProperties", false⟩] }
  have read : Registry.ofDocument sizeDocument = .ok sizeRegistry := rfl
  have closed : DependencyClosure.compute sizeRegistry disabled {} = .ok closure := by decide +kernel
  obtain ⟨m, built, b, done, unlisted⟩ : ∃ m, Mappings.build sizeRegistry disabled closure {} = .ok m ∧
      ∃ b, ofModel ⟨{}, sizeRegistry, disabled, closure, m⟩ = .ok b ∧
        ∀ name ∈ ["VK_UUID_SIZE_KHR", "VK_TILE_ROWS"], ∀ line ∈ b.lines,
          ¬ ("pub const " ++ name).toList <+: line.toList :=
    ⟨_, rfl, _, rfl, by decide +kernel⟩
  have made : Model.build sizeDocument {} = .ok ⟨{}, sizeRegistry, disabled, closure, m⟩ :=
    bind_eq_ok.2 ⟨sizeRegistry, mapError_eq_ok.2 read, Model.ofRegistry_of_parts closed built⟩
  exact ⟨_, b, made, done, ⟨_, List.mem_cons_self, rfl⟩, unlisted⟩

/-- The length of an array that is given a value has its line. -/
theorem length_declared_iff_uuid :
    ∃ model b, Model.build sizeDocument {} = .ok model ∧ ofModel model = .ok b ∧
      DeclaresConstant b "VK_UUID_SIZE" ∧ ∃ s ∈ b.structs, s.name = "VkPhysicalDeviceTileProperties" ∧
        ∃ item, ("uuid", .array item (.constant "VK_UUID_SIZE")) ∈ s.fields := by
  obtain ⟨model, b, made, done, emitted, _⟩ := sizeDocument_bindings
  obtain ⟨⟨s, bound, named, item, field⟩, declared⟩ :=
    length_declared_iff made done emitted List.mem_cons_self (rfl : _ = some "VK_UUID_SIZE")
  have given : ∃ e ∈ constantEntries sizeDocument, GivesValue e "VK_UUID_SIZE" :=
    ⟨_, List.mem_cons_self, rfl, rfl, rfl⟩
  exact ⟨model, b, made, done, declared.2 (.inl given), s, bound, named, item, field⟩

/-- An alias of a constant and a constant without a value are entries of the block, and no line declares them. -/
theorem length_undeclared_alias :
    ∃ model b, Model.build sizeDocument {} = .ok model ∧ ofModel model = .ok b ∧ Emitted model tileSizes ∧
      ∀ length ∈ ["VK_UUID_SIZE_KHR", "VK_TILE_ROWS"],
        (∃ m ∈ tileSizes.members, m.arrayLen = some length) ∧
        (∃ e ∈ constantEntries sizeDocument, e.attr? "name" = some length) ∧
          ∀ line ∈ b.lines, ¬ IsConstantLine line length := by
  obtain ⟨model, b, made, done, emitted, unlisted⟩ := sizeDocument_bindings
  refine ⟨model, b, made, done, emitted, fun length mem => ⟨?_, ?_, ?_⟩⟩
  · revert length
    decide +kernel
  · revert length
    decide +kernel
  · rintro line listed ⟨type, value, rfl⟩
    refine unlisted length mem _ listed ?_
    simp only [String.toList_append, List.append_assoc]
    exact List.prefix_append _ _

end Bindings

end CapabilityRegistry
