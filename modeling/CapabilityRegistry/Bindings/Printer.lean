import CapabilityRegistry.Bindings
import CapabilityRegistry.Text.Lines

/-!
# Printing bindings

The text of the bindings: a fixed preamble, then one block of lines for each declaration.
-/

namespace CapabilityRegistry.Bindings

open Text (inQuotes unlines)

/-- The lines before all declarations. -/
def preamble : List String :=
  ["//! Vulkan registry tables generated by vkcaps. Do not edit.",
    "",
    "#![allow(non_camel_case_types, non_snake_case, non_upper_case_globals, dead_code)]",
    "",
    "use core::ffi::\x7bc_char, c_void\x7d;",
    "",
    "pub type VkBool32 = u32;",
    "pub type VkDeviceSize = u64;",
    "pub type VkFlags = u32;",
    "pub type VkFlags64 = u64;"]

/-- The spelling of a representation. -/
def EnumRepr.render : EnumRepr → String
  | signed32 => "i32"
  | unsigned32 => "u32"
  | unsigned64 => "u64"

/-- The text of a value. -/
def EnumLiteral.render : EnumLiteral → String
  | number n => toString n
  | shifted bit => "1 << " ++ toString bit

/-- The lines of an enum. -/
def EnumBinding.lines (e : EnumBinding) : List String :=
  ["",
    "#[repr(transparent)]",
    "#[derive(Clone, Copy, Debug, PartialEq, Eq, Hash)]",
    "pub struct " ++ e.name ++ "(pub " ++ e.repr.render ++ ");",
    "",
    "impl " ++ e.name ++ " \x7b"]
  ++ (e.constants.map fun (name, value) =>
    "    pub const " ++ name ++ ": Self = Self(" ++ value.render ++ ");")
  ++ ["\x7d"]

/-- The line of a constant. -/
def ConstantBinding.line (c : ConstantBinding) : String :=
  "pub const " ++ c.name ++ ": " ++ c.typeName ++ " = " ++ c.value ++ ";"

/-- The line of a version. -/
def versionLine (version : String × UInt32) : String :=
  "pub const " ++ version.1 ++ ": u32 = " ++ toString version.2.toNat ++ ";"

/-- The line of a type alias. -/
def aliasLine (binding : String × String) : String :=
  "pub type " ++ binding.1 ++ " = " ++ binding.2 ++ ";"

/-- The line of a handle. -/
def handleLine (name : String) : String :=
  aliasLine (name, "*mut c_void")

/-- The lines of a struct. -/
def StructBinding.lines (s : StructBinding) : List String :=
  ["", "#[repr(C)]", "#[derive(Clone, Copy, Debug)]"]
  ++ (if s.fields.isEmpty then ["pub struct " ++ s.name ++ " \x7b\x7d"]
    else
      ["pub struct " ++ s.name ++ " \x7b"]
      ++ (s.fields.map fun (name, type) => "    pub " ++ name ++ ": " ++ type.render ++ ",")
      ++ ["\x7d"])

/-- A pair of strings on a line of its own. -/
def pairText (pair : String × String) : String :=
  "(" ++ inQuotes pair.1 ++ ", " ++ inQuotes pair.2 ++ "),"

/-- The lines of an entry that holds items. -/
def entryLines (key : String) (items : List String) : List String :=
  ["    (", "        " ++ inQuotes key ++ ",", "        &["]
  ++ items.map ("            " ++ ·) ++ ["        ],", "    ),"]

/-- The first line of a table. -/
def tableHead (name type : String) : List String :=
  ["", "pub const " ++ name ++ ": " ++ type ++ " = &["]

/-- The lines of a table. -/
def Table.lines : Table → List String
  | names name items =>
    tableHead name "&[&str]" ++ items.map (fun i => "    " ++ inQuotes i ++ ",") ++ ["];"]
  | pairs name entries =>
    tableHead name "&[(&str, &str)]" ++ entries.map (fun e => "    " ++ pairText e) ++ ["];"]
  | groups name entries =>
    tableHead name "&[(&str, &[(&str, &str)])]"
      ++ entries.flatMap (fun (key, held) => entryLines key (held.map pairText)) ++ ["];"]
  | lists name entries =>
    tableHead name "&[(&str, &[&str])]"
      ++ entries.flatMap (fun (key, items) => entryLines key (items.map (inQuotes · ++ ",")))
      ++ ["];"]

/-- The lines of bindings. -/
def lines (b : Bindings) : List String :=
  preamble
  ++ b.enums.flatMap (·.lines)
  ++ "" :: b.constants.map (·.line)
  ++ "" :: b.versions.map versionLine
  ++ "" :: b.typeAliases.map aliasLine
  ++ "" :: b.handles.map handleLine
  ++ b.structs.flatMap (·.lines)
  ++ "" :: b.structAliases.map aliasLine
  ++ b.tables.flatMap (·.lines)

/-- The text of bindings. -/
def render (b : Bindings) : String :=
  unlines b.lines

end Bindings

end CapabilityRegistry
