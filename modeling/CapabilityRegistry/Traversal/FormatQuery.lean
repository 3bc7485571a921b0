import CapabilityRegistry.Traversal.Chain

/-!
# Format queries

The values of the tracked enum are queried range by range. Values of the base version are always
queried, those of another version if the device has it, and those of an extension if it is reported.
-/

namespace CapabilityRegistry.Traversal

/-- Ranges that are queried under one condition. -/
structure FormatBlock where
  guard : Option Guard
  ranges : List ValueRange
  deriving DecidableEq, Repr

/-- The owner is named like a version of the API. -/
def isVersionOwner (o : GrowableOwner) : Bool :=
  (versionSuffix? o.owner).isSome

/-- The ranges of a version. -/
def versionFormats (o : GrowableOwner) : FormatBlock where
  guard := if o.owner = baseVersionOwner then none else (versionSuffix? o.owner).map .version
  ranges := o.ranges

/-- The ranges of an extension, each under a condition of its own. -/
def extensionFormats (o : GrowableOwner) : List FormatBlock :=
  o.ranges.map fun r => ⟨some (.extension o.owner), [r]⟩

/-- All queries: versions first, then extensions. -/
def formatBlocks (g : GrowableEnum) : List FormatBlock :=
  (g.owners.filter isVersionOwner).map versionFormats
    ++ (g.owners.filter (!isVersionOwner ·)).flatMap extensionFormats

end CapabilityRegistry.Traversal
