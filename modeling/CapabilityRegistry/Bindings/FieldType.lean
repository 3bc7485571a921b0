import CapabilityRegistry.Model

/-!
# Types of fields

The type of a struct member in the generated bindings: a base type inside pointers, and perhaps an
array of that. Scalars get the spelling of the bindings, declared types keep their name.
-/

namespace CapabilityRegistry.Bindings

/-- The spelling of a scalar; any other name is its own. -/
def scalarType (name : String) : String :=
  match name with
  | "uint8_t" => "u8"
  | "uint16_t" => "u16"
  | "uint32_t" => "u32"
  | "uint64_t" => "u64"
  | "int8_t" => "i8"
  | "int16_t" => "i16"
  | "int32_t" | "int" => "i32"
  | "int64_t" => "i64"
  | "float" | "float_t" => "f32"
  | "double" => "f64"
  | "size_t" => "usize"
  | "char" => "c_char"
  | "void" => "c_void"
  | "str" => "*const c_char"
  | other => other

/-- The length of an array. -/
inductive ArrayLength where
  | number (n : Nat)
  | constant (name : String)
  deriving DecidableEq, Repr

/-- Reads a length: a number that fits in 64 bits, or the name of a constant. -/
def ArrayLength.ofText (text : String) : ArrayLength :=
  match Numeral.unsigned? 64 text.toList with
  | some n => .number n
  | none => .constant text

/-- The text of a length. -/
def ArrayLength.render : ArrayLength → String
  | number n => toString n
  | constant name => name ++ " as usize"

/-- The type of a field. -/
inductive FieldType where
  | base (name : String)
  | pointer (toConst : Bool) (target : FieldType)
  | array (item : FieldType) (length : ArrayLength)
  deriving DecidableEq, Repr

namespace FieldType

/-- The text of a type. -/
def render : FieldType → String
  | base name => name
  | pointer true target => "*const " ++ target.render
  | pointer false target => "*mut " ++ target.render
  | array item length => "[" ++ item.render ++ "; " ++ length.render ++ "]"

/-- Puts pointers around a type, so many of them. Only the innermost one may point to a constant. -/
def pointers (depth : Nat) (isConst : Bool) (target : FieldType) : FieldType :=
  match depth with
  | 0 => target
  | 1 => .pointer isConst target
  | outer + 2 => .pointer false (pointers (outer + 1) isConst target)

end FieldType

/-- The base type of a member, unless its name is unknown. -/
def baseType? (reg : Registry) (typeName : String) : Option String :=
  match reg.classify typeName with
  | .scalar => some (scalarType typeName)
  | .declared _ => some typeName
  | .unknown => none

/-- The type of a member of a struct. -/
def memberType (reg : Registry) (owner : String) (m : Member) : Except RegistryError FieldType :=
  match baseType? reg m.typeName with
  | none => .error (.unknownType m.typeName m.cType owner)
  | some base =>
    let item := FieldType.pointers m.pointerDepth.toNat m.isConst (.base base)
    .ok (match m.arrayLen with
      | some length => .array item (.ofText length)
      | none => item)

end CapabilityRegistry.Bindings
