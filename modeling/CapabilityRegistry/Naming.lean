import CapabilityRegistry.Naming.CamelCase
import CapabilityRegistry.Text.Pieces

/-!
# Names

How names of the registry become names of the generated outputs: wrapper types and fields of
extensions, fields of capability structs, keys of visitors and companion lists. The conversions are
total, and different names may get one image.
-/

namespace CapabilityRegistry.Naming

open Text (isDecimalDigit)

/-- How the start of an extension name starts the name of its wrapper type. The first match counts, so
that `VK_NV` takes the names of `VK_NVX`. -/
def wrapperStarts : List (String × String) :=
  [("VK_KHR", "VkJsonKHR"), ("VK_EXT", "VkJsonExt"), ("VK_IMG", "VkJsonIMG"),
    ("VK_ANDROID", "VkJsonANDROID"), ("VK_AMD", "VkJsonAMD"), ("VK_MESA", "VkJsonMESA"),
    ("VK_NV", "VkJsonNV"), ("VK_QCOM", "VkJsonQCOM"), ("VK_ARM", "VkJsonARM"),
    ("VK_HUAWEI", "VkJsonHUAWEI"), ("VK_VALVE", "VkJsonVALVE"), ("VK_MSFT", "VkJsonMSFT"),
    ("VK_SEC", "VkJsonSEC"), ("VK_NVX", "VKJsonNVX")]

/-- How the start of an extension name starts the name of its field. -/
def fieldStarts : List (String × String) :=
  [("VK_KHR_", "khr_"), ("VK_EXT_", "ext_"), ("VK_IMG_", "img_"), ("VK_ANDROID_", "android_"),
    ("VK_AMD_", "amd_"), ("VK_MESA_", "mesa_"), ("VK_NV_", "nv_"), ("VK_QCOM_", "qcom_"),
    ("VK_ARM_", "arm_"), ("VK_HUAWEI_", "huawei_"), ("VK_VALVE_", "valve_"), ("VK_MSFT_", "msft_"),
    ("VK_SEC_", "sec_"), ("VK_NVX_", "nvx_")]

/-- What is stripped from both ends of the name of a capability struct, in this order. -/
def structAffixes : List String :=
  ["VkPhysicalDevice", "KHR", "EXT", "IMG", "ANDROID", "AMD", "MESA", "NV", "QCOM", "ARM", "HUAWEI",
    "VALVE", "MSFT"]

/-- The short form in which a vendor at the end of a name returns. The first match counts. -/
def vendorEndings : List (String × String) :=
  [("KHR", "_khr"), ("EXT", "_ext"), ("IMG", "_img"), ("ANDROID", "_android"), ("AMD", "_amd"),
    ("NV", "_nv"), ("MESA", "_mesa"), ("VALVE", "_valve"), ("MSFT", "_msft"), ("QCOM", "_qcom"),
    ("ARM", "_arm"), ("HUAWEI", "_huawei")]

/-- Fields that get another name than the rules give. -/
def fieldExceptions : List (String × String) :=
  [("memory_properties", "memory"),
    ("ycbcr2_plane444_formats_features_ext", "ycbcr_2plane_444_formats_features_ext")]

/-- Replaces the first of the listed starts that the text has. -/
def replaceStart? (starts : List (String × String)) (cs : List Char) : Option (List Char) :=
  starts.findSome? fun (start, replacement) =>
    (Text.stripStart? start cs).map (replacement.toList ++ ·)

/-- The wrapper type of an extension: `VK_KHR_shader_float16_int8` has `VkJsonKHRShaderFloat16Int8`. -/
def wrapperName (extension : String) : String :=
  let name := extension.toList
  let started := (replaceStart? wrapperStarts name).getD ("VkJsonExt".toList ++ name)
  String.ofList (foldUnderscores (fun _ => true) started)

/-- Moves a number that is the second of three words behind the third one. -/
def moveSecondNumber (cs : List Char) : List Char :=
  let word := cs.takeWhile isLetterAscii
  match cs.dropWhile isLetterAscii with
  | '_' :: rest =>
    let moved := moveLeadingNumber rest
    if word.isEmpty then cs else word ++ '_' :: moved
  | _ => cs

/-- The field that holds the wrapper of an extension: `VK_EXT_4444_formats` has `ext_formats_4444`. -/
def extensionField (extension : String) : String :=
  match replaceStart? fieldStarts extension.toList with
  | some field => String.ofList (moveSecondNumber field)
  | none => Text.lowercase extension

/-- Strips an affix once from the start and once from the end. -/
def stripAffix (cs : List Char) (affix : String) : List Char :=
  let cs := (Text.stripStart? affix cs).getD cs
  (Text.stripEnd? affix cs).getD cs

/-- The name of a capability struct without its affixes. -/
def stripAffixes (cs : List Char) : List Char :=
  structAffixes.foldl stripAffix cs

/-- The short form of the vendor at the end of a name, or nothing. -/
def vendorEnding (name : String) : String :=
  match vendorEndings.find? fun (ending, _) => Text.endsWith name ending with
  | some (_, short) => short
  | none => ""

/-- The field of a capability struct: `VkPhysicalDevice16BitStorageFeatures` has
`bit16_storage_features`. -/
def structField (name : String) : String :=
  let field := String.ofList (snakeCase (stripAffixes name.toList)) ++ vendorEnding name
  (fieldExceptions.lookup field).getD field

/-- Moves a number at the start behind the capitalised word after it. -/
def moveNumberBehindWord (cs : List Char) : List Char :=
  let number := cs.takeWhile isDecimalDigit
  match cs.dropWhile isDecimalDigit with
  | c :: rest =>
    if !number.isEmpty && isUpperAscii c then
      c :: (rest.takeWhile isLowerAscii ++ number ++ rest.dropWhile isLowerAscii)
    else cs
  | [] => cs

/-- The key under which a visitor of an extension meets a capability struct:
`VkPhysicalDevice4444FormatsFeaturesEXT` has `formats4444FeaturesEXT`. -/
def memberKey (name : String) : String :=
  let stripped := Text.remove "VkPhysicalDevice" name.toList
  String.ofList (lowerFirst (moveNumberBehindWord (lowerFirst stripped)))

/-- Puts an underscore before each capital that a lower case letter follows, except at the start. -/
def separateWords : List Char → List Char
  | c :: d :: e :: cs =>
    if isUpperAscii d && isLowerAscii e then c :: '_' :: separateWords (d :: e :: cs)
    else c :: separateWords (d :: e :: cs)
  | cs => cs

/-- The list that stores the elements of a pointer member: `pCopySrcLayouts` has
`copy_src_layouts`. -/
def companionField (member : String) : String :=
  let snake := Text.lower (separateWords member.toList)
  String.ofList ((Text.stripStart? "p_" snake).getD snake)

end CapabilityRegistry.Naming
