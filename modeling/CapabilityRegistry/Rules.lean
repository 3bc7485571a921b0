import CapabilityRegistry.Text.Blank
import CapabilityRegistry.Text.Pieces

/-!
# Rules

The tables that steer which declarations are kept and how they are grouped. The defaults describe a
build for Android.
-/

namespace CapabilityRegistry

/-- The rules of one run. -/
structure Rules where
  /-- Structs whose names start so are capability structs. -/
  capabilityStart : String := "VkPhysicalDevice"
  /-- The structs that a reportable struct must extend. -/
  aggregators : List String := ["VkPhysicalDeviceProperties2", "VkPhysicalDeviceFeatures2"]
  /-- Capability structs that features of this API require are never reported. -/
  restrictedApi : String := "vulkansc"
  /-- The only platform whose extensions are enabled. -/
  supportedPlatform : String := "android"
  /-- The APIs whose features are mapped to structs, in the order of processing. -/
  featureApis : List String := ["vulkan,vulkansc", "vulkan"]
  /-- The enum whose values from extensions are tracked. -/
  growableEnum : String := "VkFormat"
  /-- Structs that are disabled whatever the registry says. -/
  alwaysDisabled : List String := ["VkPhysicalDeviceHostImageCopyProperties"]
  /-- Structs that are queried by themselves and always emitted. -/
  standaloneStructs : List String :=
    ["VkImageFormatProperties", "VkQueueFamilyProperties", "VkExtensionProperties",
      "VkLayerProperties", "VkFormatProperties"]
  /-- Capability structs that every device reports. -/
  deviceStructs : List String :=
    ["VkPhysicalDeviceProperties", "VkPhysicalDeviceFeatures", "VkPhysicalDeviceMemoryProperties"]
  deriving DecidableEq, Repr

namespace Rules

variable (rules : Rules)

/-- The name is that of a capability struct. -/
def isCapability (name : String) : Bool :=
  Text.startsWith name rules.capabilityStart

/-- A list of extended structs names an aggregator. -/
def extendsAggregator (extended : String) : Bool :=
  (Text.splitAt ',' extended).any fun target => rules.aggregators.contains (Text.trimmed target)

/-- An extension with this support and platform is enabled. -/
def extensionEnabled (supported : String) (platform : Option String) : Bool :=
  supported != "disabled" && platform.all (· == rules.supportedPlatform)

end Rules

end CapabilityRegistry
