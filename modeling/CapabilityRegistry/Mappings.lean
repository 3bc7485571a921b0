import CapabilityRegistry.AliasGraph
import CapabilityRegistry.Closure
import CapabilityRegistry.Growable
import CapabilityRegistry.Mappings.CoreVersion
import CapabilityRegistry.NameTable

/-!
# Mappings

The tables that the generated outputs are made from. Every reportable struct is in one of four places:
the group of its core version, the feature or the extension that requires it first, or the list of
independent structs.
-/

namespace CapabilityRegistry

/-- A struct with the identifier that its `sType` member must hold. -/
structure StructEntry where
  name : String
  typeTag : String
  deriving DecidableEq, Repr

/-- The structs of one core version. -/
structure CoreGroup where
  key : String
  /-- The digits of the version, as the struct names write them. -/
  digits : String
  structs : List StructEntry
  deriving DecidableEq, Repr

/-- The first struct of a group whose name ends in a category. -/
def CoreGroup.find? (g : CoreGroup) (category : String) : Option StructEntry :=
  g.structs.find? fun s => Text.endsWith s.name category

/-- The structs that a feature or extension requires. -/
structure Requirer where
  name : String
  structs : List StructEntry
  deriving DecidableEq, Repr

/-- A pointer member with the member that counts its elements. -/
structure ListMember where
  name : String
  typeName : String
  sizeMember : String
  deriving DecidableEq, Repr

/-- The list members of a struct. -/
structure DynamicList where
  structName : String
  members : List ListMember
  deriving DecidableEq, Repr

/-- The enumerants of an enum. -/
structure EnumMembership where
  name : String
  members : List String
  deriving DecidableEq, Repr

/-- The tables of one registry. -/
structure Mappings where
  /-- The type tags of structs and aliases. -/
  typeTags : NameTable
  /-- The lists of extended structs, by struct and alias. -/
  extended : NameTable
  /-- The reportable structs that are no aliases, in ascending order. -/
  reportable : List String
  coreGroups : List CoreGroup
  features : List Requirer
  extensions : List Requirer
  /-- The reportable structs that are in no group, feature or extension. -/
  independent : List String
  /-- The counting members of list members. -/
  listSizes : NameTable
  dynamicLists : List DynamicList
  enumMembers : List EnumMembership
  growable : Option GrowableEnum
  /-- The reportable names, those of aliases included. -/
  reportableNames : List String
  /-- The aliases of capability structs. -/
  aliases : AliasGraph

namespace Mappings

/-! ## Names -/

/-- The enabled capability structs: structs and aliases that are not excluded. -/
def enabledStructs (reg : Registry) (disabled : DisabledSet) (rules : Rules) : List StructDecl :=
  reg.structs.filter fun d => rules.isCapability d.name && !disabled.excludes d

/-- The alias declarations among structs, as edges. -/
def aliasEdges (structs : List StructDecl) : List (String × String) :=
  structs.filterMap fun d => d.aliasOf.map (d.name, ·)

/-- The name at the end of an alias chain; a name on a cycle is its own. -/
def canonicalIn (aliases : AliasGraph) (name : String) : String :=
  (aliases.root? name).getD name

/-- The structs, no aliases, that extend an aggregator, in the order of the registry. -/
def reportableStructs (rules : Rules) (structs : List StructDecl) : List String :=
  (structs.filter fun d => d.aliasOf.isNone && d.extended.any rules.extendsAggregator).map (·.name)

/-- The aliases that lead to reportable structs. -/
def reportableAliases (aliases : AliasGraph) (own : List String) (structs : List StructDecl) :
    List String :=
  (structs.filter fun d => d.aliasOf.isSome && own.contains (canonicalIn aliases d.name)).map (·.name)

/-! ## Tags and extended structs -/

/-- The type tags that declarations state themselves. -/
def ownTags (structs : List StructDecl) : NameTable :=
  .ofList (structs.filterMap fun d =>
    if d.aliasOf.isNone then d.typeTag.map (d.name, ·) else none)

/-- The type tags of structs, and those of aliases of capability structs. -/
def collectTags (rules : Rules) (aliases : AliasGraph) (structs : List StructDecl) : NameTable :=
  let own := ownTags structs
  let resolved := (aliases.resolveAll own.get?).filterMap fun (name, tag?) =>
    if (aliases.target? name).any rules.isCapability then tag?.map (name, ·) else none
  resolved.foldl (fun table (name, tag) => table.insert name tag) own

/-- The declarations that count for the lists of extended structs. -/
def extendingStructs (rules : Rules) (structs : List StructDecl) : List StructDecl :=
  structs.filter fun d => d.extended.all rules.extendsAggregator

/-- The lists of extended structs, each name taking the first one along its alias chain. -/
def collectExtended (reg : Registry) (disabled : DisabledSet) (rules : Rules) : NameTable :=
  let named := reg.structs.filter fun d => !disabled.contains d.name
  let counting := extendingStructs rules named
  let own : NameTable := .ofList (counting.filterMap fun d =>
    if d.aliasOf.isNone then d.extended.map (d.name, ·) else none)
  let graph := AliasGraph.ofPairs (aliasEdges counting)
  .ofList (named.filterMap fun d => (graph.resolve own.get? d.name).map (d.name, ·))

/-! ## Claims -/

/-- What a claim is decided by. -/
structure ClaimContext where
  aliases : AliasGraph
  typeTags : NameTable
  reportableNames : List String

/-- The entry that claims the struct behind a name, unless it is claimed or has no type tag. -/
def ClaimContext.claim? (ctx : ClaimContext) (claimed : List String) (name : String) :
    Option StructEntry :=
  if ctx.reportableNames.contains name && !claimed.contains (canonicalIn ctx.aliases name) then
    (ctx.typeTags.get? name).map (⟨name, ·⟩)
  else none

/-- Claims names one after the other; gives the entries and all that is claimed then. -/
def ClaimContext.claimNames (ctx : ClaimContext) (claimed : List String) :
    List String → List StructEntry × List String
  | [] => ([], claimed)
  | name :: rest =>
    match ctx.claim? claimed name with
    | none => ctx.claimNames claimed rest
    | some entry =>
      let (entries, all) := ctx.claimNames (canonicalIn ctx.aliases name :: claimed) rest
      (entry :: entries, all)

/-- Claims the names that requirers list, one requirer after the other. -/
def ClaimContext.claimAll (ctx : ClaimContext) (claimed : List String) :
    List (String × List String) → List Requirer × List String
  | [] => ([], claimed)
  | (name, required) :: rest =>
    let (entries, claimed) := ctx.claimNames claimed required
    let (others, all) := ctx.claimAll claimed rest
    (⟨name, entries⟩ :: others, all)

/-- Requirers of one name become one, at the place of the first. -/
def mergeByName (requirers : List Requirer) : List Requirer :=
  (distinctOn (·.name) requirers).map fun r =>
    ⟨r.name, (requirers.filter (·.name == r.name)).flatMap (·.structs)⟩

/-- What features require, in the order of processing. -/
def featureRequests (reg : Registry) (disabled : DisabledSet) (rules : Rules) :
    List (String × List String) :=
  rules.featureApis.flatMap fun api =>
    (reg.features.filter (·.api == api)).map fun f =>
      (f.name, f.requires.types.filter (!disabled.contains ·))

/-- What enabled extensions require, in the order of the registry. -/
def extensionRequests (reg : Registry) (disabled : DisabledSet) (rules : Rules) :
    List (String × List String) :=
  (reg.extensions.filter fun e => rules.extensionEnabled e.supported e.platform).map fun e =>
    (e.name, e.requires.types.filter (!disabled.contains ·))

/-! ## Core groups -/

/-- The structs that are named after a core version. -/
def coreStructs (rules : Rules) (own : List String) : List (String × CoreVersion) :=
  own.filterMap fun name => (CoreVersion.ofName? name rules.capabilityStart).map (name, ·)

/-- The number that digits denote; one that does not fit in 32 bits counts as the largest. -/
def groupNumber (digits : String) : Nat :=
  (Numeral.unsigned? 32 digits.toList).getD 0xFFFFFFFF

/-- The groups of core versions in ascending order. -/
def collectCoreGroups (core : List (String × CoreVersion)) : List CoreGroup :=
  let groups := (distinct (core.map (·.2.digits))).map fun digits =>
    { key := "Core" ++ digits
      digits
      structs := (core.filter (·.2.digits == digits)).map fun (name, v) => ⟨name, v.typeTag⟩ }
  groups.mergeSort fun a b => groupNumber a.digits ≤ groupNumber b.digits

/-! ## Lists and enums -/

/-- The counting members of the members of enabled capability structs; the last of a name wins. -/
def collectListSizes (reg : Registry) (disabled : DisabledSet) (rules : Rules) : NameTable :=
  let structs := reg.structs.filter fun d => rules.isCapability d.name && !disabled.contains d.name
  .ofList ((structs.flatMap (·.members)).filterMap fun m => m.lenAttr.map (m.name, ·))

/-- The list member that a member is, if it is one. -/
def listMember? (m : Member) : Option ListMember :=
  if m.isPointer then m.lenAttr.map (⟨m.name, m.typeName, ·⟩) else none

/-- The capability structs of the closure that have list members. -/
def collectDynamicLists (reg : Registry) (closure : DependencyClosure) (rules : Rules) :
    List DynamicList :=
  let names := (closure.order.map (·.name)).filter rules.isCapability
  let lists := (names.filterMap reg.structDecl?).map fun d =>
    (⟨d.name, d.members.filterMap listMember?⟩ : DynamicList)
  lists.filter (!·.members.isEmpty)

/-- The values that the tracked enum has beyond those of a declaration. -/
def addedTo (growable : Option GrowableEnum) (d : EnumDecl) : List (String × Int) :=
  match growable with
  | some g =>
    if g.name = d.name then g.added.filter fun (name, _) => !(d.members.map (·.name)).contains name
    else []
  | none => []

/-- The enumerants of the enums that members use. -/
def collectEnumMembers (reg : Registry) (closure : DependencyClosure)
    (growable : Option GrowableEnum) : List EnumMembership :=
  (reg.enums.filter fun d => closure.usesEnum d.name).map fun d =>
    ⟨d.name, d.members.map (·.name) ++ (addedTo growable d).map (·.1)⟩

/-! ## Building and asking -/

/-- The tables of a registry; only an entry that cannot extend the tracked enum makes this fail. -/
def build (reg : Registry) (disabled : DisabledSet) (closure : DependencyClosure) (rules : Rules) :
    Except InvalidEntry Mappings := do
  let structs := enabledStructs reg disabled rules
  let aliases := AliasGraph.ofPairs (aliasEdges structs)
  let typeTags := collectTags rules aliases structs
  let own := reportableStructs rules structs
  let reportableNames := own ++ reportableAliases aliases own structs
  let reportable := own.mergeSort fun a b => a ≤ b
  let core := coreStructs rules own
  let ctx : ClaimContext := { aliases, typeTags, reportableNames }
  let (features, claimed) := ctx.claimAll (core.map (·.1)) (featureRequests reg disabled rules)
  let (extensions, claimed) := ctx.claimAll claimed (extensionRequests reg disabled rules)
  let growable ← Growable.collect reg rules
  return {
    typeTags
    extended := collectExtended reg disabled rules
    reportable
    coreGroups := collectCoreGroups core
    features := (mergeByName features).filter (!·.structs.isEmpty)
    extensions := extensions.filter (!·.structs.isEmpty)
    independent := reportable.filter (!claimed.contains ·)
    listSizes := collectListSizes reg disabled rules
    dynamicLists := collectDynamicLists reg closure rules
    enumMembers := collectEnumMembers reg closure growable
    growable
    reportableNames
    aliases }

variable (m : Mappings)

/-- The name is that of a reportable struct, or of an alias of one. -/
def isReportable (name : String) : Bool :=
  m.reportableNames.contains name

/-- The name at the end of the alias chain of a capability struct. -/
def canonical (name : String) : String :=
  canonicalIn m.aliases name

/-- The type tag of a struct or alias. -/
def typeTag? (name : String) : Option String :=
  m.typeTags.get? name

/-- The list of structs that a struct or alias extends. -/
def extendedOf? (name : String) : Option String :=
  m.extended.get? name

/-- The list members of a struct. -/
def dynamicList? (structName : String) : Option DynamicList :=
  m.dynamicLists.find? (·.structName == structName)

/-- The core group that holds a struct. -/
def coreGroupOf? (structName : String) : Option CoreGroup :=
  m.coreGroups.find? fun g => g.structs.any (·.name == structName)

end Mappings

end CapabilityRegistry
