import CapabilityRegistry.FileAccess
import CapabilityRegistry.Model
import CapabilityRegistry.Rules.Table

/-!
# Loading from files

Rules and models of the files that hold them.
-/

namespace CapabilityRegistry

variable {m : Type → Type} [Monad m]

/-- The rules of a file. -/
def Rules.load (files : FileAccess m) (path : String) : ExceptT RegistryError m Rules := do
  match ← files.readText path with
  | none => throw .unreadable
  | some document =>
    match Rules.parse? document with
    | none => throw .invalidRules
    | some rules => return rules

/-- The model of the registry in a file. -/
def Model.load (files : FileAccess m) (path : String) (rules : Rules) :
    ExceptT RegistryError m Model := do
  match ← files.readText path with
  | none => throw .unreadable
  | some document => ExceptT.mk (pure (Model.parse document rules))

end CapabilityRegistry
