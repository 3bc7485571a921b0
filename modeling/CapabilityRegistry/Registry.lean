import CapabilityRegistry.Registry.Declaration

/-!
# Registries

A registry is the list of its declarations in document order. Where a name is declared twice, the
first declaration of its kind counts.
-/

namespace CapabilityRegistry

/-- Every declaration of one registry document. -/
structure Registry where
  structs : List StructDecl := []
  enums : List EnumDecl := []
  handles : List String := []
  /-- Flag types with the width they are declared against. -/
  flagAliases : List (String × String) := []
  /-- Base types with the type they stand for. -/
  baseTypes : List (String × String) := []
  /-- Alias declarations of every category with their targets. -/
  typeAliases : List (String × String) := []
  apiConstants : List ApiConstant := []
  apiVersions : List (String × ApiVersion) := []
  extensions : List Extension := []
  features : List Feature := []
  deriving Repr

/-- How a type name may be used for a member. -/
inductive TypeClass where
  | scalar
  | declared (kind : TypeKind)
  | unknown
  deriving DecidableEq, Repr

namespace Registry

variable (reg : Registry)

/-- The first struct declaration of a name. -/
def structDecl? (name : String) : Option StructDecl :=
  reg.structs.find? (·.name == name)

/-- The first enum declaration of a name. -/
def enumDecl? (name : String) : Option EnumDecl :=
  reg.enums.find? (·.name == name)

/-- The name is a handle. -/
def isHandle (name : String) : Bool :=
  reg.handles.contains name

/-- The target of the first alias declaration of a name. -/
def aliasTarget? (name : String) : Option String :=
  reg.typeAliases.lookup name

/-- The width of a flag type. -/
def flagAlias? (name : String) : Option String :=
  reg.flagAliases.lookup name

/-- The type that a base type stands for. -/
def baseType? (name : String) : Option String :=
  reg.baseTypes.lookup name

/-- The kind of a declared name. A struct declaration comes before an enum, a handle, an alias and a
base type of the same name. -/
def kindOf? (name : String) : Option TypeKind :=
  match reg.structDecl? name with
  | some d => some (if d.aliasOf.isSome then .aliased else .struct)
  | none =>
    if (reg.enumDecl? name).isSome then some .enum
    else if reg.isHandle name then some .handle
    else if (reg.flagAlias? name).isSome || (reg.aliasTarget? name).isSome then some .aliased
    else if (reg.baseType? name).isSome then some .primitive
    else none

/-- How a member may use a type name: scalars need no declaration. -/
def classify (name : String) : TypeClass :=
  if name = "void" ∨ name = "char" ∨ name ∈ knownScalars then .scalar
  else
    match reg.kindOf? name with
    | some kind => .declared kind
    | none => .unknown

/-- The names of the declared structs, in document order. -/
def structNames : List String :=
  reg.structs.map (·.name)

/-- A struct that is found is one of the declared names. -/
theorem mem_structNames_of_structDecl? {name : String} {d : StructDecl}
    (h : reg.structDecl? name = some d) : name ∈ reg.structNames := by
  have hmem := List.mem_of_find?_eq_some h
  have hname : d.name = name := by simpa using List.find?_some h
  exact List.mem_map.2 ⟨d, hmem, hname⟩

end Registry

end CapabilityRegistry
