import CapabilityRegistry.Json
import CapabilityRegistry.Model

/-!
# The model as JSON

The derived tables of a model, for other programs to read. The order of the members is fixed.
-/

namespace CapabilityRegistry

/-- The rules as JSON. -/
def Rules.toJson (rules : Rules) : Json :=
  .object [
    ("capability_prefix", .text rules.capabilityStart),
    ("aggregators", .ofStrings rules.aggregators),
    ("restricted_api", .text rules.restrictedApi),
    ("supported_platform", .text rules.supportedPlatform),
    ("feature_apis", .ofStrings rules.featureApis),
    ("growable_enum", .text rules.growableEnum),
    ("always_disabled", .ofStrings rules.alwaysDisabled),
    ("standalone_structs", .ofStrings rules.standaloneStructs),
    ("device_structs", .ofStrings rules.deviceStructs)]

/-- A constant as JSON. -/
def ApiConstant.toJson (c : ApiConstant) : Json :=
  .object [("name", .text c.name), ("value", .text c.value), ("type_name", .text c.typeName)]

/-- A version as JSON. -/
def ApiVersion.toJson (v : ApiVersion) : Json :=
  .object [("variant", .number v.variant.toNat), ("major", .number v.major.toNat),
    ("minor", .number v.minor.toNat), ("patch", .number v.patch.toNat)]

/-- A reason as JSON: the rule, and what made it fire if that is known. -/
def DisableReason.toJson : DisableReason → Json
  | alwaysDisabled => .object [("rule", .text "always_disabled")]
  | foreignExtends => .object [("rule", .text "foreign_extends")]
  | restrictedApi source => .object [("rule", .text "restricted_api"), ("source", .text source)]
  | unsupportedExtension source =>
    .object [("rule", .text "unsupported_extension"), ("source", .text source)]
  | extensionPlumbing source =>
    .object [("rule", .text "extension_plumbing"), ("source", .text source)]

/-- The disabled names as JSON. -/
def DisabledSet.toJson (set : DisabledSet) : Json :=
  .object [("entries", .array (set.entries.map fun (name, reason) =>
    .array [.text name, reason.toJson]))]

/-- The closure as JSON. -/
def DependencyClosure.toJson (c : DependencyClosure) : Json :=
  .object [
    ("order", .array (c.order.map fun e =>
      .object [("name", .text e.name), ("is_dependency", .bool e.isDependency)])),
    ("enums", .ofStrings c.enums),
    ("handles", .ofStrings c.handles),
    ("aliases", .ofStrings c.aliases),
    ("base_types", .ofStrings c.baseTypes)]

/-- A table as a JSON object. -/
def NameTable.toJson (t : NameTable) : Json :=
  .object (t.entries.map fun (name, text) => (name, .text text))

/-- The entries of a group as JSON. -/
def StructEntry.arrayJson (entries : List StructEntry) : Json :=
  .array (entries.map fun e => .object [("name", .text e.name), ("type_tag", .text e.typeTag)])

/-- A core group as JSON. -/
def CoreGroup.toJson (g : CoreGroup) : Json :=
  .object [("key", .text g.key), ("digits", .text g.digits),
    ("structs", StructEntry.arrayJson g.structs)]

/-- A requirer as JSON. -/
def Requirer.toJson (r : Requirer) : Json :=
  .object [("name", .text r.name), ("structs", StructEntry.arrayJson r.structs)]

/-- The list members of a struct as JSON. -/
def DynamicList.toJson (d : DynamicList) : Json :=
  .object [("struct_name", .text d.structName),
    ("members", .array (d.members.map fun m =>
      .object [("name", .text m.name), ("type_name", .text m.typeName),
        ("size_member", .text m.sizeMember)]))]

/-- Named values as JSON. -/
def valuesJson (values : List (String × Int)) : Json :=
  .array (values.map fun (name, value) => .array [.text name, .number value])

/-- An owner of values as JSON. -/
def GrowableOwner.toJson (o : GrowableOwner) : Json :=
  .object [("owner", .text o.owner), ("values", valuesJson o.values),
    ("ranges", .array (o.ranges.map fun r =>
      .object [("first", .text r.first), ("last", .text r.last)]))]

/-- The tracked enum as JSON. -/
def GrowableEnum.toJson (g : GrowableEnum) : Json :=
  .object [("name", .text g.name), ("added", valuesJson g.added),
    ("owners", .array (g.owners.map (·.toJson)))]

/-- The mappings as JSON. -/
def Mappings.toJson (m : Mappings) : Json :=
  .object [
    ("type_tags", m.typeTags.toJson),
    ("extends", m.extended.toJson),
    ("reportable", .ofStrings m.reportable),
    ("core_groups", .array (m.coreGroups.map (·.toJson))),
    ("features", .array (m.features.map (·.toJson))),
    ("extensions", .array (m.extensions.map (·.toJson))),
    ("independent", .ofStrings m.independent),
    ("list_sizes", m.listSizes.toJson),
    ("dynamic_lists", .array (m.dynamicLists.map (·.toJson))),
    ("enum_members", .array (m.enumMembers.map fun e =>
      .object [("name", .text e.name), ("members", .ofStrings e.members)])),
    ("growable", (m.growable.map (·.toJson)).getD .null)]

/-- The derived tables of a model as JSON. -/
def Model.toJson (m : Model) : Json :=
  .object [
    ("rules", m.rules.toJson),
    ("api_constants", .array (m.registry.apiConstants.map (·.toJson))),
    ("api_versions", .array (m.registry.apiVersions.map fun (name, v) =>
      .array [.text name, v.toJson])),
    ("disabled", m.disabled.toJson),
    ("closure", m.closure.toJson),
    ("mappings", m.mappings.toJson)]

/-- The text of the derived tables. -/
def Model.dump (m : Model) : String :=
  m.toJson.pretty

end CapabilityRegistry
