import CapabilityRegistry.Mappings
import CapabilityRegistry.Markup.Document
import CapabilityRegistry.Registry.Extraction

/-!
# The model of a registry

A registry with everything that is derived from it, computed once per run: the disabled names, the
closure of structs and the mappings. All outputs are functions of the model.
-/

namespace CapabilityRegistry

/-- Why a run cannot go on. -/
inductive RegistryError where
  /-- A file is missing or is no text. -/
  | unreadable
  /-- The rules are no valid rule set. -/
  | invalidRules
  | markup (fault : Markup.Fault)
  | declaration (defect : Defect)
  | unknownType (typeName cType structName : String)
  | missingStructureType (name : String)
  | unknownExtends (name : String)
  | compositionCycle (name : String)
  | invalidGrowable (entry : InvalidEntry)
  deriving DecidableEq, Repr

/-- The wording of an error. -/
def RegistryError.message : RegistryError → String
  | unreadable => "Failed to read registry"
  | invalidRules => "Failed to parse rule set"
  | markup fault => "Malformed registry document: " ++ fault.message
  | declaration defect => "Malformed registry document: " ++ defect.message
  | unknownType typeName cType structName =>
    "Unknown data type '" ++ typeName ++ "' (C type '" ++ cType ++ "') in struct '" ++ structName ++ "'"
  | missingStructureType name => "No structure type identifier for '" ++ name ++ "'"
  | unknownExtends name => "No extends classification for '" ++ name ++ "'"
  | compositionCycle name => "Struct composition cycle through '" ++ name ++ "'"
  | invalidGrowable entry =>
    "Invalid enum extension for '" ++ entry.enumerant ++ "' in '" ++ entry.owner ++ "': "
      ++ entry.fault.message

/-- A registry with all that is derived from it. -/
structure Model where
  rules : Rules
  registry : Registry
  disabled : DisabledSet
  closure : DependencyClosure
  mappings : Mappings

namespace Model

/-- The model of a registry. -/
def ofRegistry (registry : Registry) (rules : Rules) : Except RegistryError Model := do
  let disabled := DisabledSet.compute registry rules
  let closure ← (DependencyClosure.compute registry disabled rules).mapError .compositionCycle
  let mappings ← (Mappings.build registry disabled closure rules).mapError .invalidGrowable
  return { rules, registry, disabled, closure, mappings }

/-- The model of a document's root element. -/
def build (root : Markup.Element) (rules : Rules) : Except RegistryError Model := do
  ofRegistry (← (Registry.ofDocument root).mapError .declaration) rules

/-- The model of a document. -/
def parse (document : String) (rules : Rules) : Except RegistryError Model := do
  build (← (Markup.parse document).mapError .markup) rules

end Model

end CapabilityRegistry
