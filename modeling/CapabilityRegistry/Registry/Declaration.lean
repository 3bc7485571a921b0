import CapabilityRegistry.Numeral
import CapabilityRegistry.Text.Pieces

/-!
# Declarations of a registry

What a registry declares: structs with their members, enums, constants, versions, features and
extensions. All of it is read once from the registry document.
-/

namespace CapabilityRegistry

/-- Scalar types that need no declaration of their own. -/
def primitiveTypes : List String :=
  ["float_t", "uint32_t", "uint8_t", "int32_t", "uint64_t", "size_t", "float", "VkBool32",
    "int64_t", "str", "VkDeviceSize", "uint16_t"]

/-- Every scalar that a member may name without a declaration. -/
def knownScalars : List String :=
  ["uint8_t", "uint32_t", "VkFlags", "int32_t", "uint64_t", "VkBool32", "VkDeviceSize", "size_t",
    "float_t", "int64_t", "uint16_t", "VkFlags64", "float", "str", "int", "double"]

/-- The two widths against which flag types are declared. -/
def flagBaseTypes : List String :=
  ["VkFlags", "VkFlags64"]

/-- Members that only chain structs together. -/
def chainMembers : List String :=
  ["sType", "pNext"]

/-- The kind of a declared type. -/
inductive TypeKind where
  | struct
  | enum
  | handle
  | aliased
  | primitive
  deriving DecidableEq, Repr

/-- A member of a struct. -/
structure Member where
  name : String
  /-- The base type, without pointers and arrays. -/
  typeName : String
  /-- The C declaration up to the name of the member. -/
  cType : String
  isConst : Bool
  pointerDepth : UInt8
  /-- The size of a fixed array: a number or the name of a constant. -/
  arrayLen : Option String := none
  /-- The member that holds the number of elements. -/
  lenAttr : Option String := none
  /-- The member is a string that ends at its first zero. -/
  nullTerminated : Bool := false
  deriving DecidableEq, Repr

namespace Member

/-- The size used for emission: the counting member before the fixed size. -/
def sizeExpr (m : Member) : Option String :=
  m.lenAttr <|> m.arrayLen

/-- The member is a pointer. -/
def isPointer (m : Member) : Bool :=
  m.pointerDepth > 0

/-- The member points to elements that another member counts. -/
def isDynamicList (m : Member) : Bool :=
  m.isPointer && m.lenAttr.isSome

end Member

/-- A declaration of a struct or union. -/
structure StructDecl where
  name : String
  /-- The struct that an alias declaration stands for. -/
  aliasOf : Option String := none
  /-- The list of structs whose chains this one may join, as the registry writes it. -/
  extended : Option String := none
  /-- The identifier that the `sType` member must hold. -/
  typeTag : Option String := none
  members : List Member
  deriving DecidableEq, Repr

/-- The names that a struct lists as extended, without blanks and empty entries. -/
def StructDecl.extendedNames (d : StructDecl) : List String :=
  ((Text.splitAt ',' (d.extended.getD "")).map Text.trimmed).filter (· ≠ "")

/-- The value of an enumerant as the registry spells it. -/
inductive EnumValue where
  | value (text : String)
  | bitPos (text : String)
  deriving DecidableEq, Repr

namespace EnumValue

/-- The text of the value. -/
def literal : EnumValue → String
  | value text => text
  | bitPos text => text

/-- The number that the text denotes; a bit position is not shifted. -/
def number? (v : EnumValue) : Option Int :=
  Numeral.parseInt v.literal

end EnumValue

/-- An enumerant of an enum declaration. -/
structure EnumMember where
  name : String
  value : EnumValue
  deriving DecidableEq, Repr

/-- A declaration of an enum; `kind` is `enum` or `bitmask`. -/
structure EnumDecl where
  name : String
  kind : String
  members : List EnumMember
  deriving DecidableEq, Repr

/-- A named numeric constant. -/
structure ApiConstant where
  name : String
  value : String
  typeName : String
  deriving DecidableEq, Repr

/-- A version of the API. -/
structure ApiVersion where
  variant : UInt32
  major : UInt32
  minor : UInt32
  patch : UInt32
  deriving DecidableEq, Repr

/-- The version in one word: variant from bit 29, major from bit 22, minor from bit 12, patch from
bit 0. -/
def ApiVersion.packed (v : ApiVersion) : UInt32 :=
  v.variant <<< 29 ||| v.major <<< 22 ||| v.minor <<< 12 ||| v.patch

/-- An enumerant that a requirement adds to an existing enum. -/
structure EnumExtension where
  name : String
  /-- The enum that is extended. -/
  enumName : String
  offset : Option Int := none
  extnumber : Option Int := none
  value : Option String := none
  aliasOf : Option String := none
  /-- The computed value is negated. -/
  negative : Bool := false
  deriving DecidableEq, Repr

/-- What a feature or extension requires. -/
structure Requirements where
  types : List String
  enums : List EnumExtension
  deriving DecidableEq, Repr

/-- An extension of the API. -/
structure Extension where
  name : String
  number : Option Int
  supported : String
  platform : Option String := none
  requires : Requirements
  deriving DecidableEq, Repr

/-- A core version of the API, with the list of APIs that it belongs to. -/
structure Feature where
  name : String
  api : String
  requires : Requirements
  deriving DecidableEq, Repr

end CapabilityRegistry
