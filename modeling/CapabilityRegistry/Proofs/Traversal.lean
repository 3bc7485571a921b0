import CapabilityRegistry.Proofs.Success
import CapabilityRegistry.Traversal

/-!
# What a header is made of

Where each part of a header comes from: `written_of_ofModel` opens a header, `exists_header` makes one.
-/

namespace CapabilityRegistry.Traversal

variable {model : Model} {header : Traversal}

/-- Where the parts of a header come from. -/
structure Written (model : Model) (header : Traversal) : Prop where
  wrappers : header.wrappers = model.mappings.extensions.map (wrapperRecord model.mappings)
  coreRecords : header.coreRecords = model.mappings.coreGroups.map (coreRecord model.mappings)
  device : header.device = deviceRecord model
  enumTraits : header.enumTraits = model.mappings.enumMembers.filter (!skippedTraits.contains ·.name)
  templates : header.templates = visitTemplates model
  chains : chainBlocks model.mappings = .ok header.chains
  resizes : header.resizes = resizeBlocks model
  formats : header.formats = model.mappings.growable.map formatBlocks

/-- A header that there is has been made so. -/
theorem written_of_ofModel (done : ofModel model = .ok header) : Written model header := by
  obtain ⟨chains, linked, done⟩ := bind_eq_ok.1 done
  cases done
  exact ⟨rfl, rfl, rfl, rfl, rfl, linked, rfl, rfl⟩

/-- Only the chains can make a header fail. -/
lemma exists_header {blocks : List ChainBlock} (linked : chainBlocks model.mappings = .ok blocks) :
    ∃ header, ofModel model = .ok header ∧ header.chains = blocks :=
  ⟨_, bind_eq_ok.2 ⟨blocks, linked, rfl⟩, rfl⟩

end CapabilityRegistry.Traversal
