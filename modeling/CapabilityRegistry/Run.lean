import CapabilityRegistry.Bindings.Printer
import CapabilityRegistry.Configuration
import CapabilityRegistry.Path
import CapabilityRegistry.Model.Dump
import CapabilityRegistry.Model.Loading
import CapabilityRegistry.Traversal.Printer

/-!
# Runs

A run reads the configuration and the registry, makes all outputs, and only then writes them, one
after the other. Main definition: `Run.generate`, which gives the counts of a run.
-/

namespace CapabilityRegistry

/-- Why a run fails. -/
inductive RunError where
  | unreadableConfiguration (path : String)
  | invalidConfiguration (path : String)
  /-- The registry has no model. -/
  | registry (path : String) (cause : RegistryError)
  /-- An output of the model cannot be made. -/
  | outputs (cause : RegistryError)
  | directory (path : String)
  | file (path : String)
  deriving DecidableEq, Repr

namespace RunError

/-- What failed. -/
def message : RunError → String
  | unreadableConfiguration path => "Failed to read configuration " ++ path
  | invalidConfiguration path => "Invalid configuration " ++ path
  | registry path _ => "Failed to process registry " ++ path
  | outputs _ => "Failed to generate outputs"
  | directory path => "Failed to create " ++ path
  | file path => "Failed to write " ++ path

/-- What made it fail, as far as it is known. -/
def cause? : RunError → Option RegistryError
  | registry _ cause => some cause
  | outputs cause => some cause
  | _ => none

/-- The text that reports an error. -/
def report (error : RunError) : String :=
  "Error: " ++ error.message ++
    match error.cause? with
    | some cause => "\n\nCaused by:\n    " ++ cause.message
    | none => ""

end RunError

namespace Run

/-- The texts that are made of a model. -/
structure Outputs where
  bindings : String
  traversal : String
  deriving DecidableEq, Repr

/-- The outputs of a model. -/
def Outputs.ofModel (model : Model) : Except RegistryError Outputs := do
  let bindings ← Bindings.ofModel model
  let traversal ← Traversal.ofModel model
  return { bindings := bindings.render, traversal := traversal.render }

/-- Counts of a run. -/
structure Summary where
  structs : Nat
  disabled : Nat
  reportable : Nat
  coreGroups : Nat
  features : Nat
  extensions : Nat
  independent : Nat
  bindingsBytes : Nat
  traversalBytes : Nat
  deriving DecidableEq, Repr

/-- The counts of a model and its outputs. -/
def Summary.of (model : Model) (outputs : Outputs) : Summary where
  structs := model.closure.order.length
  disabled := model.disabled.size
  reportable := model.mappings.reportable.length
  coreGroups := model.mappings.coreGroups.length
  features := model.mappings.features.length
  extensions := model.mappings.extensions.length
  independent := model.mappings.independent.length
  bindingsBytes := outputs.bindings.utf8ByteSize
  traversalBytes := outputs.traversal.utf8ByteSize

/-- The lines that tell the counts for the registry at a path. -/
def Summary.lines (summary : Summary) (registry : String) : List String :=
  ["Registry " ++ registry ++ " is consistent:",
    "  structs emitted:      " ++ toString summary.structs,
    "  disabled names:       " ++ toString summary.disabled,
    "  reportable structs:   " ++ toString summary.reportable,
    "  core groups:          " ++ toString summary.coreGroups,
    "  feature versions:     " ++ toString summary.features,
    "  extensions:           " ++ toString summary.extensions,
    "  version independent:  " ++ toString summary.independent,
    "  module size:          " ++ toString summary.bindingsBytes ++ " bytes",
    "  header size:          " ++ toString summary.traversalBytes ++ " bytes"]

variable {m : Type → Type} [Monad m]

/-- The configuration at a path, the default one if nothing is there. -/
def loadConfiguration (files : FileAccess m) (path : String) : ExceptT RunError m Configuration := do
  if ← files.isPresent path then
    match ← files.readText path with
    | none => throw (.unreadableConfiguration path)
    | some document =>
      match Configuration.parse? document with
      | none => throw (.invalidConfiguration path)
      | some configuration => return configuration
  else return {}

/-- Writes one output, its directory first. -/
def writeOutput (files : FileAccess m) (path text : String) : ExceptT RunError m Unit := do
  if let some parent := (Path.ofString path).parent? then
    let directory := parent.toString
    if !directory.isEmpty then
      if !(← files.makeDirectories directory) then throw (.directory directory)
  if !(← files.writeText path text) then throw (.file path)

/-- Writes the outputs of a model where the configuration wants them. -/
def writeOutputs (files : FileAccess m) (configuration : Configuration) (model : Model)
    (outputs : Outputs) : ExceptT RunError m Unit := do
  writeOutput files configuration.bindings outputs.bindings
  writeOutput files configuration.traversal outputs.traversal
  if let some path := configuration.model then
    writeOutput files path model.dump

/-- One run. Nothing is written unless `write` holds, and not before all outputs are made. -/
def generate (files : FileAccess m) (configuration : Configuration) (write : Bool) :
    ExceptT RunError m Summary := do
  let model ← (Model.load files configuration.registry configuration.rules).adapt
    (RunError.registry configuration.registry)
  let outputs ← ExceptT.mk (pure ((Outputs.ofModel model).mapError .outputs))
  if write then writeOutputs files configuration model outputs
  return Summary.of model outputs

end Run

end CapabilityRegistry
