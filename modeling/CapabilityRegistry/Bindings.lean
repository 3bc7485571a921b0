import CapabilityRegistry.Bindings.FieldType

/-!
# Bindings

The declarations of the generated bindings: enums, constants, types and structs of the closure, then
the tables of the mappings. They are plain data; printing decides nothing more.
-/

namespace CapabilityRegistry.Bindings

/-- The integer that represents an enum. -/
inductive EnumRepr where
  | signed32
  | unsigned32
  | unsigned64
  deriving DecidableEq, Repr

/-- The value of an enumerant. -/
inductive EnumLiteral where
  | number (n : Int)
  /-- One shifted left by a number of bits. -/
  | shifted (bit : Int)
  deriving DecidableEq, Repr

/-- An enum with its constants. -/
structure EnumBinding where
  name : String
  repr : EnumRepr
  constants : List (String × EnumLiteral)
  deriving DecidableEq, Repr

/-- A numeric constant. -/
structure ConstantBinding where
  name : String
  typeName : String
  value : String
  deriving DecidableEq, Repr

/-- A struct with its fields. -/
structure StructBinding where
  name : String
  fields : List (String × FieldType)
  deriving DecidableEq, Repr

/-- A table of the mappings. -/
inductive Table where
  | names (name : String) (items : List String)
  | pairs (name : String) (entries : List (String × String))
  | groups (name : String) (entries : List (String × List (String × String)))
  | lists (name : String) (entries : List (String × List String))
  deriving DecidableEq, Repr

end Bindings

/-- All declarations of the generated bindings, section by section. -/
structure Bindings where
  enums : List Bindings.EnumBinding
  constants : List Bindings.ConstantBinding
  versions : List (String × UInt32)
  typeAliases : List (String × String)
  handles : List String
  structs : List Bindings.StructBinding
  structAliases : List (String × String)
  tables : List Bindings.Table
  deriving DecidableEq, Repr

namespace Bindings

/-! ## Enums -/

/-- The value needs more than 32 bits. -/
def isWide (value : EnumValue) : Bool :=
  match value with
  | .bitPos _ => value.number?.any (32 ≤ ·)
  | .value _ => value.number?.any (0xFFFFFFFF < ·)

/-- The representation of an enum: bit masks are unsigned, as wide as their values need. -/
def enumRepr (d : EnumDecl) : EnumRepr :=
  if d.kind ≠ "bitmask" then .signed32
  else if d.members.any fun m => isWide m.value then .unsigned64
  else .unsigned32

/-- The value of an enumerant that has a numeric one. -/
def enumLiteral? (value : EnumValue) : Option EnumLiteral :=
  match value with
  | .bitPos _ => value.number?.map .shifted
  | .value _ => value.number?.map .number

/-- The binding of an enum, with what features and extensions add to it. -/
def enumBinding (growable : Option GrowableEnum) (d : EnumDecl) : EnumBinding where
  name := d.name
  repr := enumRepr d
  constants :=
    (d.members.filterMap fun m => (enumLiteral? m.value).map (m.name, ·))
      ++ (Mappings.addedTo growable d).map fun (name, value) => (name, .number value)

/-! ## Constants -/

/-- The type of a constant. -/
def constantType (typeName : String) : String :=
  match typeName with
  | "uint64_t" => "u64"
  | "int32_t" => "i32"
  | "float" => "f32"
  | _ => "u32"

/-- The value of a constant of a type; a floating-point one has a point or an exponent. -/
def constantLiteral (typeName value : String) : String :=
  if typeName = "f32" ∧ ¬ value.toList.any fun c => c == '.' || c == 'e' || c == 'E' then
    value ++ ".0"
  else value

/-- The binding of a constant. -/
def constantBinding (c : ApiConstant) : ConstantBinding :=
  let typeName := constantType c.typeName
  ⟨c.name, typeName, constantLiteral typeName c.value⟩

/-! ## Types and structs -/

/-- The target of an alias that is no struct. -/
def aliasBinding? (reg : Registry) (name : String) : Option (String × String) :=
  if (reg.structDecl? name).isSome then none
  else (reg.flagAlias? name <|> reg.aliasTarget? name).map (name, ·)

/-- The scalar behind a base type. -/
def baseBinding? (reg : Registry) (name : String) : Option (String × String) :=
  (reg.baseType? name).map fun underlying => (name, scalarType underlying)

/-- Words that a field name may not be by itself. -/
def keywords : List String :=
  ["as", "box", "break", "const", "crate", "enum", "fn", "impl", "loop", "match", "mod", "move", "ref",
    "self", "static", "struct", "trait", "type", "use", "where"]

/-- The name of a field. -/
def fieldName (name : String) : String :=
  if name ∈ keywords then "r#" ++ name else name

/-- The binding of a struct; it fails at a member whose type is unknown. -/
def structBinding (reg : Registry) (d : StructDecl) : Except RegistryError StructBinding := do
  let fields ← d.members.mapM fun m => do
    return (fieldName m.name, ← memberType reg d.name m)
  return ⟨d.name, fields⟩

/-- The binding of a struct alias that is used, or whose struct is and that is not disabled. -/
def structAlias? (model : Model) (d : StructDecl) : Option (String × String) := do
  let target ← d.aliasOf
  if model.closure.usesAlias d.name
      || (model.closure.contains target && !model.disabled.contains d.name) then
    some (d.name, target)
  else none

/-! ## Tables -/

/-- The names and type tags of entries. -/
def entryPairs (entries : List StructEntry) : List (String × String) :=
  entries.map fun e => (e.name, e.typeTag)

/-- The tables of the mappings, in the order of emission. -/
def tablesOf (m : Mappings) : List Table :=
  [.names "REPORTABLE_STRUCTS" m.reportable,
    .groups "EXTENSION_STRUCTS" (m.extensions.map fun e => (e.name, entryPairs e.structs)),
    .groups "FEATURE_STRUCTS" (m.features.map fun f => (f.name, entryPairs f.structs)),
    .names "EXTENSION_INDEPENDENT_STRUCTS" m.independent,
    .groups "CORE_STRUCTS" (m.coreGroups.map fun g => (g.key, entryPairs g.structs)),
    .pairs "LIST_SIZE_MEMBERS" m.listSizes.entries,
    .pairs "STRUCT_EXTENDS" m.extended.entries,
    .lists "ENUM_MEMBERS" (m.enumMembers.map fun e => (e.name, e.members))]
  ++ m.growable.toList.map fun g =>
    .groups "GROWABLE_ENUM_RANGES" (g.owners.map fun o =>
      (o.owner, o.ranges.map fun r => (r.first, r.last)))

/-- The bindings of a model; they fail where a member has an unknown type. -/
def ofModel (model : Model) : Except RegistryError Bindings := do
  let reg := model.registry
  let decls := model.closure.order.filterMap fun e => reg.structDecl? e.name
  let structs ← decls.mapM (structBinding reg)
  return {
    enums := (reg.enums.filter fun d => model.closure.usesEnum d.name).map
      (enumBinding model.mappings.growable)
    constants := reg.apiConstants.map constantBinding
    versions := reg.apiVersions.map fun (name, v) => (name, v.packed)
    typeAliases := model.closure.aliases.filterMap (aliasBinding? reg)
      ++ model.closure.baseTypes.filterMap (baseBinding? reg)
    handles := model.closure.handles
    structs
    structAliases := reg.structs.filterMap (structAlias? model)
    tables := tablesOf model.mappings }

end Bindings

end CapabilityRegistry
