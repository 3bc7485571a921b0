import CapabilityRegistry.Traversal.FormatQuery
import CapabilityRegistry.Traversal.Resize

/-!
# The traversal header

Everything that the generated header declares: records, traits of enums, visits, chains, resizing and
format queries. Printing decides nothing more.
-/

namespace CapabilityRegistry

/-- The contents of the header. -/
structure Traversal where
  wrappers : List Traversal.Record
  coreRecords : List Traversal.Record
  device : Traversal.Record
  enumTraits : List EnumMembership
  templates : List Traversal.VisitTemplate
  chains : List Traversal.ChainBlock
  resizes : List Traversal.ResizeBlock
  /-- The queries of the tracked enum, if it is declared. -/
  formats : Option (List Traversal.FormatBlock)
  deriving DecidableEq, Repr

namespace Traversal

/-- Enums that get no traits. -/
def skippedTraits : List String := ["VkImageLayout"]

/-- The header of a model; it fails where a struct cannot be linked into a chain. -/
def ofModel (model : Model) : Except RegistryError Traversal := do
  let m := model.mappings
  let chains ← chainBlocks m
  return {
    wrappers := m.extensions.map (wrapperRecord m)
    coreRecords := m.coreGroups.map (coreRecord m)
    device := deviceRecord model
    enumTraits := m.enumMembers.filter (!skippedTraits.contains ·.name)
    templates := visitTemplates model
    chains
    resizes := resizeBlocks model
    formats := m.growable.map formatBlocks }

end Traversal

end CapabilityRegistry
