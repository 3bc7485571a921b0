import CapabilityRegistry.Text.Lines
import CapabilityRegistry.Traversal

/-!
# Printing the header

The text of the header between a fixed preamble and a fixed end.
-/

namespace CapabilityRegistry.Traversal

open Text (inQuotes unlines)

/-- The lines before everything else. -/
def preamble : List String :=
  ["///////////////////////////////////////////////////////////////////////////////",
    "//",
    "// Vulkan device capability traversal, generated by vkcaps from the Vulkan",
    "// registry. Do not edit.",
    "//",
    "// Licensed under the Apache License, Version 2.0 (the \"License\");",
    "// you may not use this file except in compliance with the License.",
    "// You may obtain a copy of the License at",
    "//",
    "//     http://www.apache.org/licenses/LICENSE-2.0",
    "//",
    "// Unless required by applicable law or agreed to in writing, software",
    "// distributed under the License is distributed on an \"AS IS\" BASIS,",
    "// WITHOUT WARRANTIES OR CONDITIONS OF ANY KIND, either express or implied.",
    "// See the License for the specific language governing permissions and",
    "// limitations under the License.",
    "///////////////////////////////////////////////////////////////////////////////",
    "",
    "#ifndef VKJSON_GENERATED_H_",
    "#define VKJSON_GENERATED_H_",
    "",
    "#include <vulkan/vulkan.h>",
    "",
    "#include <cstring>",
    "#include <map>",
    "#include <string>",
    "#include <vector>",
    "",
    "template <typename T>",
    "struct EnumTraits;",
    "",
    "inline bool HasExtension(const char* name,",
    "                         const std::vector<VkExtensionProperties>& extensions) \x7b",
    "  for (const auto& extension : extensions) \x7b",
    "    if (strcmp(extension.extensionName, name) == 0) \x7b",
    "      return true;",
    "    \x7d",
    "  \x7d",
    "  return false;",
    "\x7d",
    ""]

/-- The lines after everything else. -/
def epilogue : List String :=
  ["#endif  // VKJSON_GENERATED_H_"]

/-- The query that runs again when vectors have been attached. -/
def queryLine : String :=
  "vkGetPhysicalDeviceProperties2(physical_device, &properties);"

/-- The declaration of a field. -/
def Field.line (f : Field) : String :=
  "  " ++ f.typeName ++ " " ++ f.name ++ ";"

/-- The line that sets a struct to zero. -/
def Field.resetLine (f : Field) : String :=
  "    memset(&" ++ f.name ++ ", 0, sizeof(" ++ f.typeName ++ "));"

/-- The declaration of a vector. -/
def Field.vectorLine (f : Field) : String :=
  "  std::vector<" ++ f.typeName ++ "> " ++ f.name ++ ";"

/-- The lines of a record. -/
def Record.lines (r : Record) : List String :=
  ["struct " ++ r.name ++ " \x7b", "  " ++ r.name ++ "() \x7b"]
  ++ (if r.hasReported then ["    reported = false;"] else [])
  ++ r.structs.map (·.resetLine) ++ ["  \x7d"]
  ++ (if r.hasReported then ["  bool reported;"] else [])
  ++ r.structs.map (·.line) ++ r.parts.map (·.line) ++ r.vectors.map (·.vectorLine) ++ r.tail
  ++ ["\x7d;", ""]

/-- The lines of the traits of an enum. -/
def traitLines (e : EnumMembership) : List String :=
  ["template <>",
    "struct EnumTraits<" ++ e.name ++ "> \x7b",
    "  static bool exist(uint32_t e) \x7b",
    "    switch (e) \x7b"]
  ++ (e.members.map fun member => "      case " ++ member ++ ":")
  ++ (if e.members.isEmpty then [] else ["        return true;"])
  ++ ["    \x7d", "    return false;", "  \x7d", "\x7d;", ""]

/-- The text of a call. -/
def VisitCall.render (c : VisitCall) : String :=
  match c.size with
  | some size => "visitor->VisitArray(" ++ inQuotes c.key ++ ", " ++ size ++ ", &" ++ c.path ++ ")"
  | none => "visitor->Visit(" ++ inQuotes c.key ++ ", &" ++ c.path ++ ")"

/-- The result of several calls: all of them must hold. -/
def callsText (calls : List VisitCall) : String :=
  if calls.isEmpty then "true" else " &&\n         ".intercalate (calls.map (·.render))

/-- The lines of a template. -/
def VisitTemplate.lines (t : VisitTemplate) : List String :=
  ["template <typename Visitor>",
    "inline bool " ++ t.function ++ "(Visitor* visitor, " ++ t.paramType ++ "* " ++ t.param ++ ") \x7b",
    "  return " ++ callsText t.calls ++ ";",
    "\x7d",
    ""]

/-- The line that opens a condition. -/
def Guard.line : Guard → String
  | version suffix => "  if (device.properties.apiVersion >= VK_API_VERSION_" ++ suffix ++ ") \x7b"
  | extension name => "  if (HasExtension(" ++ inQuotes name ++ ", device.extensions)) \x7b"

/-- Lines under a condition, given how they read at a level of indentation. -/
def guarded (guard : Option Guard) (lines : String → List String) : List String :=
  match guard with
  | some g => g.line :: lines "    " ++ ["  \x7d"]
  | none => lines "  "

/-- The lines of a link. -/
def ChainLink.lines (indent : String) (l : ChainLink) : List String :=
  let head := l.head.variableName
  [indent ++ l.path ++ ".sType = " ++ l.entry.typeTag ++ ";",
    indent ++ l.path ++ ".pNext = " ++ head ++ ".pNext;",
    indent ++ head ++ ".pNext = &" ++ l.path ++ ";"]

/-- The lines of links under one condition. -/
def ChainBlock.lines (b : ChainBlock) : List String :=
  guarded b.guard fun indent =>
    (b.reported.toList.map fun field => indent ++ "device." ++ field ++ ".reported = true;")
      ++ b.links.flatMap (·.lines indent)

/-- The function that links all chains. -/
def chainLines (blocks : List ChainBlock) : List String :=
  ["inline void VkJsonChainStructs(VkJsonDevice& device,",
    "                               VkPhysicalDeviceProperties2& properties,",
    "                               VkPhysicalDeviceFeatures2& features) \x7b"]
  ++ blocks.flatMap (·.lines) ++ ["\x7d", ""]

/-- The path of a counting member. -/
def ResizeBlock.sizePath (b : ResizeBlock) (l : ListMember) : String :=
  b.path ++ "." ++ l.sizeMember

/-- The path of a vector. -/
def ResizeBlock.vectorPath (b : ResizeBlock) (l : ListMember) : String :=
  b.owner ++ "." ++ Naming.companionField l.name

/-- The lines that resize and attach one vector. -/
def ResizeBlock.memberLines (b : ResizeBlock) (indent : String) (requery : Bool) (l : ListMember) :
    List String :=
  [indent ++ "if (" ++ b.sizePath l ++ " > 0) \x7b",
    indent ++ "  " ++ b.vectorPath l ++ ".resize(" ++ b.sizePath l ++ ");",
    indent ++ "  " ++ b.path ++ "." ++ l.name ++ " = " ++ b.vectorPath l ++ ".data();"]
  ++ (if requery then [indent ++ "  " ++ queryLine] else []) ++ [indent ++ "\x7d"]

/-- The lines of a struct; several list members share one query. -/
def ResizeBlock.lines (b : ResizeBlock) : List String :=
  if 1 < b.lists.length then
    let conditions := b.lists.map fun l => b.sizePath l ++ " > 0"
    ["  if (" ++ " || ".intercalate conditions ++ ") \x7b"]
    ++ b.lists.flatMap (b.memberLines "    " false) ++ ["    " ++ queryLine, "  \x7d"]
  else b.lists.flatMap (b.memberLines "  " true)

/-- The function that resizes all vectors. -/
def resizeLines (blocks : List ResizeBlock) : List String :=
  ["inline void VkJsonResizeLists(VkPhysicalDevice physical_device,",
    "                              VkJsonDevice& device,",
    "                              VkPhysicalDeviceProperties2& properties) \x7b"]
  ++ blocks.flatMap (·.lines) ++ ["\x7d", ""]

/-- The lines that query a range. -/
def rangeLines (indent : String) (r : ValueRange) : List String :=
  (if r.isSingle then [indent ++ "\x7b", indent ++ "  VkFormat format = " ++ r.first ++ ";"]
    else
      [indent ++ "for (VkFormat format = " ++ r.first ++ ";",
        indent ++ "     format <= " ++ r.last ++ ";",
        indent ++ "     format = static_cast<VkFormat>(format + 1)) \x7b"])
  ++ [indent ++ "  vkGetPhysicalDeviceFormatProperties(physical_device, format,",
    indent ++ "                                      &format_properties);",
    indent ++ "  device.formats.insert(std::make_pair(format, format_properties));",
    indent ++ "\x7d"]

/-- The function that queries all ranges. -/
def formatLines (blocks : List FormatBlock) : List String :=
  ["inline void VkJsonQueryFormats(VkPhysicalDevice physical_device,",
    "                               VkJsonDevice& device) \x7b",
    "  VkFormatProperties format_properties;"]
  ++ blocks.flatMap (fun b => guarded b.guard fun indent => b.ranges.flatMap (rangeLines indent))
  ++ ["\x7d", ""]

/-- The lines of the header. -/
def lines (t : Traversal) : List String :=
  preamble
  ++ t.wrappers.flatMap (·.lines) ++ t.coreRecords.flatMap (·.lines) ++ t.device.lines
  ++ t.enumTraits.flatMap traitLines ++ t.templates.flatMap (·.lines)
  ++ chainLines t.chains ++ resizeLines t.resizes ++ t.formats.toList.flatMap formatLines
  ++ epilogue

/-- The text of the header. -/
def render (t : Traversal) : String :=
  unlines t.lines

end CapabilityRegistry.Traversal
