import CapabilityRegistry.Model
import CapabilityRegistry.Naming

/-!
# Records

The records of the generated header: a wrapper for each extension, a record for each core group, and
the device record that holds all of them. A record holds capability structs by value, and a vector for
each of their list members.
-/

namespace CapabilityRegistry.Traversal

/-- A declaration of a field. -/
structure Field where
  typeName : String
  name : String
  deriving DecidableEq, Repr

/-- A record. -/
structure Record where
  name : String
  /-- The record says whether its extension was reported. -/
  hasReported : Bool := false
  /-- The capability structs, which start as zero. -/
  structs : List Field
  /-- The records that this one holds. -/
  parts : List Field := []
  /-- The element types and names of the vectors. -/
  vectors : List Field
  /-- Fixed lines at the end. -/
  tail : List String := []
  deriving DecidableEq, Repr

/-- The list members of a struct that get a vector: those of the struct behind its alias chain, if its
name tells of properties. -/
def listMembers (m : Mappings) (name : String) : List ListMember :=
  if Text.contains name "Properties" then
    ((m.dynamicList? (m.canonical name)).map (·.members)).getD []
  else []

/-- The vector of a list member. -/
def vectorField (l : ListMember) : Field :=
  ⟨l.typeName, Naming.companionField l.name⟩

/-- The vectors of the list members of structs; vectors of one name become one. -/
def vectorFields (m : Mappings) (names : List String) : List Field :=
  distinctOn (·.name) ((names.flatMap (listMembers m)).map vectorField)

/-- The field of a struct in a core record. -/
def coreField (name : String) : String :=
  if Text.contains name "Properties" then "properties" else "features"

/-- The record type of a core group. -/
def coreRecordName (g : CoreGroup) : String :=
  "VkJson" ++ g.key

/-- The field of the device that holds a core group. -/
def coreGroupField (g : CoreGroup) : String :=
  Text.lowercase g.key

/-- The wrapper of an extension. -/
def wrapperRecord (m : Mappings) (e : Requirer) : Record where
  name := Naming.wrapperName e.name
  hasReported := true
  structs := e.structs.map fun s => ⟨s.name, Naming.structField s.name⟩
  vectors := vectorFields m (e.structs.map (·.name))

/-- The record of a core group. -/
def coreRecord (m : Mappings) (g : CoreGroup) : Record where
  name := coreRecordName g
  structs := g.structs.map fun s => ⟨s.name, coreField s.name⟩
  vectors := vectorFields m (g.structs.map (·.name))

/-- The structs that the device holds itself: those of features, the independent ones and those that
every device has. Structs of one field name become one. -/
def deviceStructs (model : Model) : List Field :=
  let m := model.mappings
  let names := m.features.flatMap (fun f => f.structs.map (·.name)) ++ m.independent
    ++ model.rules.deviceStructs
  distinctOn (·.name) (names.map fun name => ⟨name, Naming.structField name⟩)

/-- The members of a device that no table gives. -/
def deviceTail : List String :=
  ["std::vector<VkQueueFamilyProperties> queues;",
    "  std::vector<VkExtensionProperties> extensions;",
    "  std::vector<VkLayerProperties> layers;",
    "  std::map<VkFormat, VkFormatProperties> formats;"]

/-- The record of a device. -/
def deviceRecord (model : Model) : Record :=
  let m := model.mappings
  let structs := deviceStructs model
  { name := "VkJsonDevice"
    structs
    parts := m.coreGroups.map (fun g => ⟨coreRecordName g, coreGroupField g⟩)
      ++ m.extensions.map fun e => ⟨Naming.wrapperName e.name, Naming.extensionField e.name⟩
    vectors := vectorFields m (structs.map (·.typeName))
    tail := deviceTail }

end CapabilityRegistry.Traversal
