import CapabilityRegistry.Rules.Table

/-!
# Configuration of a run

Where the registry is read from, where the outputs go, and the rules. A configuration document has one
table for each of the three, and what it does not say keeps its default.
-/

namespace CapabilityRegistry

/-- What a run reads and writes, and its rules. -/
structure Configuration where
  registry : String := "registry/vk.xml"
  /-- Where the bindings go. -/
  bindings : String := "out/vk_registry.rs"
  /-- Where the traversal goes. -/
  traversal : String := "out/vkjson.h"
  /-- Where the model goes, if it is wanted. -/
  model : Option String := none
  rules : Rules := {}
  deriving DecidableEq, Repr

namespace Configuration

/-- The configuration with what a table says about the input. -/
def withInput? (configuration : Configuration) (value : Toml.Value) : Option Configuration := do
  let entries ← value.fields? ["registry"]
  return { configuration with
    registry := ← entries.field? Toml.Value.string? "registry" configuration.registry }

/-- The configuration with what a table says about the outputs. -/
def withOutput? (configuration : Configuration) (value : Toml.Value) : Option Configuration := do
  let entries ← value.fields? ["module", "header", "model_json"]
  return { configuration with
    bindings := ← entries.field? Toml.Value.string? "module" configuration.bindings
    traversal := ← entries.field? Toml.Value.string? "header" configuration.traversal
    model := ← entries.field? (fun held => held.string?.map some) "model_json" configuration.model }

/-- The configuration that a document sets. -/
def parse? (document : String) : Option Configuration := do
  let entries ← Toml.parse? document
  let standard : Configuration := {}
  let withInput ← entries.field? standard.withInput? "input" standard
  let withOutput ← entries.field? withInput.withOutput? "output" withInput
  return { withOutput with rules := ← entries.field? Rules.ofValue? "rules" withOutput.rules }

end Configuration

end CapabilityRegistry
