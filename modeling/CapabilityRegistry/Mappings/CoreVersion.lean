import CapabilityRegistry.Text.Casing
import CapabilityRegistry.Text.Pieces

/-!
# Core versions

Structs named after a core version, such as `VkPhysicalDeviceVulkan13Features`. The digits are the
major version, one digit, and the minor version.
-/

namespace CapabilityRegistry

/-- The version digits and the category in the name of a struct. -/
structure CoreVersion where
  digits : String
  category : String
  deriving DecidableEq, Repr

namespace CoreVersion

/-- Reads the core version from a name: the start, `Vulkan`, two or more digits, and `Properties` or
`Features`. -/
def ofName? (name start : String) : Option CoreVersion := do
  let rest ← Text.stripStart? start name.toList
  let rest ← Text.stripStart? "Vulkan" rest
  let digits := rest.takeWhile Char.isDigit
  let category := String.ofList (rest.dropWhile Char.isDigit)
  if 2 ≤ digits.length ∧ (category = "Properties" ∨ category = "Features") then
    some ⟨String.ofList digits, category⟩
  else none

/-- The version as it stands in the type tag: two digits are parted, more are not. -/
def tagVersion (v : CoreVersion) : String :=
  match v.digits.toList with
  | [major, minor] => String.ofList [major, '_', minor]
  | _ => v.digits

/-- The type tag of a core struct, which follows from its name. -/
def typeTag (v : CoreVersion) : String :=
  "VK_STRUCTURE_TYPE_PHYSICAL_DEVICE_VULKAN_" ++ v.tagVersion ++ "_" ++ Text.uppercase v.category

end CoreVersion

end CapabilityRegistry
