import CapabilityRegistry.Traversal.Visit

/-!
# Chains

A query fills the structs that are linked into its chain. There are two chains, one for properties and
one for features; each struct of a core group, a feature or an extension is linked behind the head of
a chain, under the condition that the device supports it.
-/

namespace CapabilityRegistry.Traversal

/-- The two chains. -/
inductive ChainHead where
  | properties
  | features
  deriving DecidableEq, Repr

namespace ChainHead

/-- Both chains, in the order of emission. -/
def all : List ChainHead := [properties, features]

/-- The word that tells of the chain in the names of structs. -/
def category : ChainHead → String
  | properties => "Properties"
  | features => "Features"

/-- The struct that starts the chain. -/
def aggregator : ChainHead → String
  | properties => "VkPhysicalDeviceProperties2"
  | features => "VkPhysicalDeviceFeatures2"

/-- The variable of the head. -/
def variableName (h : ChainHead) : String :=
  Text.lowercase h.category

end ChainHead

/-- The condition under which code runs. -/
inductive Guard where
  /-- The device has at least this version of the API. -/
  | version (suffix : String)
  | extension (name : String)
  deriving DecidableEq, Repr

/-- One struct that is linked into a chain. -/
structure ChainLink where
  entry : StructEntry
  /-- The path of the struct in the device. -/
  path : String
  head : ChainHead
  deriving DecidableEq, Repr

/-- Links under one condition; the links of an extension also mark its wrapper as reported. -/
structure ChainBlock where
  guard : Option Guard
  reported : Option String := none
  links : List ChainLink
  deriving DecidableEq, Repr

/-- The list of structs that a struct extends mentions the head of a chain. -/
def joins (m : Mappings) (name : String) (head : ChainHead) : Bool :=
  (m.extendedOf? name).any fun extended => Text.contains extended head.aggregator

/-- The link of a struct, which must have a type tag. -/
def link (entry : StructEntry) (path : String) (head : ChainHead) :
    Except RegistryError ChainLink :=
  if entry.typeTag = "" then .error (.missingStructureType entry.name) else .ok ⟨entry, path, head⟩

/-- The chain of a struct of a core group. -/
def coreHead (m : Mappings) (name : String) : Except RegistryError ChainHead :=
  if joins m name .features then .ok .features
  else if joins m name .properties then .ok .properties
  else .error (.unknownExtends name)

/-- The version of a core group: one digit, then the rest. -/
def coreGuard (g : CoreGroup) : Guard :=
  .version (String.ofList (g.digits.toList.take 1) ++ "_" ++ String.ofList (g.digits.toList.drop 1))

/-- The links of a core group, those of properties first. -/
def coreBlock (m : Mappings) (g : CoreGroup) : Except RegistryError ChainBlock := do
  let links ← g.structs.mapM fun s => do
    let head ← coreHead m s.name
    link s ("device." ++ coreGroupField g ++ "." ++ head.variableName) head
  return {
    guard := some (coreGuard g)
    links := ChainHead.all.flatMap fun head => links.filter (·.head == head) }

/-- The links of a feature; the names of its structs tell of their chains. -/
def featureBlock (f : Requirer) : Except RegistryError ChainBlock := do
  let links ← ChainHead.all.mapM fun head =>
    (f.structs.filter fun s => Text.contains s.name head.category).mapM fun s =>
      link s ("device." ++ Naming.structField s.name) head
  return { guard := (versionSuffix? f.name).map .version, links := links.flatten }

/-- The link of a struct of an extension into a chain, if it joins that one. -/
def extensionLink? (m : Mappings) (field : String) (head : ChainHead) (s : StructEntry) :
    Except RegistryError (Option ChainLink) :=
  if (m.extendedOf? s.name).isNone
      && Text.contains (Text.lowercase s.name) head.variableName then
    .error (.unknownExtends s.name)
  else if joins m s.name head then
    some <$> link s ("device." ++ field ++ "." ++ Naming.structField s.name) head
  else .ok none

/-- The links of an extension into one chain. -/
def extensionBlock (m : Mappings) (head : ChainHead) (e : Requirer) :
    Except RegistryError ChainBlock := do
  let field := Naming.extensionField e.name
  let links ← e.structs.mapM (extensionLink? m field head)
  return { guard := some (.extension e.name), reported := some field, links := links.filterMap id }

/-- All links of a model: core groups, features, then the extensions chain by chain. -/
def chainBlocks (m : Mappings) : Except RegistryError (List ChainBlock) := do
  let core ← m.coreGroups.mapM (coreBlock m)
  let features ← (m.features.filter (!·.structs.isEmpty)).mapM featureBlock
  let extensions ← ChainHead.all.mapM fun head => m.extensions.mapM (extensionBlock m head)
  return core ++ features ++ extensions.flatten.filter (!·.links.isEmpty)

end CapabilityRegistry.Traversal
