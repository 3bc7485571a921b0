import CapabilityRegistry.Registry
import CapabilityRegistry.Rules

/-!
# Disabled names

A name is disabled when one of five rules fires. The rules run in a fixed order over the registry, and
the first reason for a name is kept.
-/

namespace CapabilityRegistry

/-- Why a name is disabled. -/
inductive DisableReason where
  /-- The rules list it. -/
  | alwaysDisabled
  /-- It extends something, but no aggregator. -/
  | foreignExtends
  /-- A feature of the restricted API requires it. -/
  | restrictedApi (feature : String)
  /-- An extension that is not enabled requires it. -/
  | unsupportedExtension (extension : String)
  /-- An enabled extension requires it, and it is no capability struct. -/
  | extensionPlumbing (extension : String)
  deriving DecidableEq, Repr

/-- The disabled names with their reasons, in the order in which they were found. -/
structure DisabledSet where
  entries : List (String × DisableReason) := []
  deriving DecidableEq, Repr

namespace DisabledSet

variable (set : DisabledSet)

/-- The disabled names. -/
def names : List String :=
  set.entries.map (·.1)

/-- The name is disabled. -/
def contains (name : String) : Bool :=
  set.entries.any (·.1 == name)

/-- Why a name is disabled. -/
def reason? (name : String) : Option DisableReason :=
  set.entries.lookup name

/-- How many names are disabled. -/
def size : Nat :=
  set.entries.length

/-- A struct is excluded when its name is disabled, or the name that it is an alias of. -/
def excludes (d : StructDecl) : Bool :=
  set.contains d.name || d.aliasOf.any set.contains

/-- Adds a name, unless it is there. -/
def insert (entry : String × DisableReason) : DisabledSet :=
  if set.contains entry.1 then set else ⟨set.entries ++ [entry]⟩

/-- What a struct declaration disables. -/
def ofStruct (rules : Rules) (d : StructDecl) : List (String × DisableReason) :=
  if d.extended.any (!rules.extendsAggregator ·) then [(d.name, .foreignExtends)] else []

/-- What a feature disables. -/
def ofFeature (rules : Rules) (f : Feature) : List (String × DisableReason) :=
  if f.api = rules.restrictedApi then
    (f.requires.types.filter rules.isCapability).map fun name => (name, .restrictedApi f.name)
  else []

/-- A declared struct or handle whose name tells of neither properties nor features. -/
def isPlumbing (reg : Registry) (name : String) : Bool :=
  ((reg.structDecl? name).isSome || reg.isHandle name)
    && !Text.contains name "Properties" && !Text.contains name "Features"

/-- What an extension disables. -/
def ofExtension (reg : Registry) (rules : Rules) (e : Extension) : List (String × DisableReason) :=
  if rules.extensionEnabled e.supported e.platform then
    (e.requires.types.filter (isPlumbing reg)).map fun name => (name, .extensionPlumbing e.name)
  else e.requires.types.map fun name => (name, .unsupportedExtension e.name)

/-- Everything that the rules disable, in the order of the rules. -/
def candidates (reg : Registry) (rules : Rules) : List (String × DisableReason) :=
  rules.alwaysDisabled.map (·, .alwaysDisabled) ++ reg.structs.flatMap (ofStruct rules)
    ++ reg.features.flatMap (ofFeature rules) ++ reg.extensions.flatMap (ofExtension reg rules)

/-- The disabled set of a registry. -/
def compute (reg : Registry) (rules : Rules) : DisabledSet :=
  (candidates reg rules).foldl insert {}

end DisabledSet

end CapabilityRegistry
