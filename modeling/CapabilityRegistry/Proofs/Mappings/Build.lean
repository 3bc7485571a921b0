import CapabilityRegistry.Mappings
import Mathlib.Tactic.Lemma

/-!
# What the tables are made of

The intermediate tables of `Mappings.build`, by name, and one inversion: `built_of_build` says where
each table of a finished build comes from, so that no later proof has to open the build itself.
-/

namespace CapabilityRegistry.Mappings

section tables
variable (reg : Registry) (disabled : DisabledSet) (rules : Rules)

/-- The aliases among the enabled capability structs. -/
def aliasGraph : AliasGraph :=
  .ofPairs (aliasEdges (enabledStructs reg disabled rules))

/-- The reportable structs in the order of the registry. -/
def ownNames : List String :=
  reportableStructs rules (enabledStructs reg disabled rules)

/-- The reportable structs that are named after a core version. -/
def ownCore : List (String × CoreVersion) :=
  coreStructs rules (ownNames reg disabled rules)

/-- What every claim is decided by. -/
def claimContext : ClaimContext where
  aliases := aliasGraph reg disabled rules
  typeTags := collectTags rules (aliasGraph reg disabled rules) (enabledStructs reg disabled rules)
  reportableNames := ownNames reg disabled rules ++
    reportableAliases (aliasGraph reg disabled rules) (ownNames reg disabled rules)
      (enabledStructs reg disabled rules)

/-- The claims of features, after those of core groups. -/
def featureClaims : List Requirer × List String :=
  (claimContext reg disabled rules).claimAll ((ownCore reg disabled rules).map (·.1))
    (featureRequests reg disabled rules)

/-- The claims of extensions, after those of features. -/
def extensionClaims : List Requirer × List String :=
  (claimContext reg disabled rules).claimAll (featureClaims reg disabled rules).2
    (extensionRequests reg disabled rules)

end tables

/-- Where the tables of a build come from. -/
structure Built (reg : Registry) (disabled : DisabledSet) (closure : DependencyClosure) (rules : Rules)
    (m : Mappings) : Prop where
  aliases : m.aliases = aliasGraph reg disabled rules
  typeTags : m.typeTags = (claimContext reg disabled rules).typeTags
  extended : m.extended = collectExtended reg disabled rules
  reportable : m.reportable = (ownNames reg disabled rules).mergeSort fun a b => a ≤ b
  reportableNames : m.reportableNames = (claimContext reg disabled rules).reportableNames
  coreGroups : m.coreGroups = collectCoreGroups (ownCore reg disabled rules)
  features : m.features =
    (mergeByName (featureClaims reg disabled rules).1).filter (!·.structs.isEmpty)
  extensions : m.extensions = (extensionClaims reg disabled rules).1.filter (!·.structs.isEmpty)
  independent : m.independent =
    m.reportable.filter (!(extensionClaims reg disabled rules).2.contains ·)
  listSizes : m.listSizes = collectListSizes reg disabled rules
  dynamicLists : m.dynamicLists = collectDynamicLists reg closure rules
  enumMembers : m.enumMembers = collectEnumMembers reg closure m.growable
  growable : Growable.collect reg rules = .ok m.growable

variable {reg : Registry} {disabled : DisabledSet} {closure : DependencyClosure} {rules : Rules}
  {m : Mappings}

/-- A build that succeeds has made its tables so. -/
theorem built_of_build (done : build reg disabled closure rules = .ok m) :
    Built reg disabled closure rules m := by
  unfold build at done
  cases collected : Growable.collect reg rules with
  | error entry =>
    rw [collected] at done
    cases done
  | ok growable =>
    rw [collected] at done
    cases done
    exact ⟨rfl, rfl, rfl, rfl, rfl, rfl, rfl, rfl, rfl, rfl, rfl, rfl, collected⟩

/-- The reportable names are those that may be claimed. -/
lemma isReportable_iff_mem (built : Built reg disabled closure rules m) {name : String} :
    m.isReportable name = true ↔ name ∈ (claimContext reg disabled rules).reportableNames := by
  rw [isReportable, List.contains_iff_mem, built.reportableNames]

end CapabilityRegistry.Mappings
