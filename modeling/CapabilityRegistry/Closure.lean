import CapabilityRegistry.Disabled
import CapabilityRegistry.Walk

/-!
# Dependency closure

Starting from the enabled capability structs and the standalone structs, the types of members are
followed. The result lists every struct once, behind the structs that it contains by value. A struct
that contains itself by value has no such place, which is the only way to fail.
-/

namespace CapabilityRegistry

/-- A struct of the closure. -/
structure ClosureEntry where
  name : String
  /-- A member of some struct of the closure has this struct as its type. -/
  isDependency : Bool
  deriving DecidableEq, Repr

/-- What the generated outputs must declare. -/
structure DependencyClosure where
  /-- The structs in the order of emission. -/
  order : List ClosureEntry := []
  /-- The enums that members use, in the order of first use; likewise the other lists. -/
  enums : List String := []
  handles : List String := []
  aliases : List String := []
  baseTypes : List String := []
  deriving DecidableEq, Repr

namespace DependencyClosure

variable (closure : DependencyClosure)

/-- The struct is in the closure. -/
def contains (name : String) : Bool :=
  closure.order.any (·.name == name)

/-- The place of a struct in the order of emission. -/
def position? (name : String) : Option Nat :=
  closure.order.findIdx? (·.name == name)

/-- A member uses the enum. -/
def usesEnum (name : String) : Bool :=
  closure.enums.contains name

/-- A member uses the handle. -/
def usesHandle (name : String) : Bool :=
  closure.handles.contains name

/-- A member uses the alias. -/
def usesAlias (name : String) : Bool :=
  closure.aliases.contains name

end DependencyClosure

namespace Registry

variable (reg : Registry)

/-- The next name behind a name that is declared as an alias. -/
def aliasStep? (name : String) : Option String :=
  if reg.classify name = .declared .aliased then
    ((reg.structDecl? name).bind (·.aliasOf)) <|> reg.aliasTarget? name
  else none

/-- The names of all alias declarations. -/
def aliasNames : List String :=
  reg.structNames ++ reg.typeAliases.map (·.1)

/-- A name that stands for another one is declared as an alias. -/
theorem mem_aliasNames_of_aliasStep? {name target : String} (h : reg.aliasStep? name = some target) :
    name ∈ reg.aliasNames := by
  unfold aliasStep? at h
  split at h
  · cases found : reg.structDecl? name with
    | some d => exact List.mem_append_left _ (reg.mem_structNames_of_structDecl? found)
    | none =>
      have target : reg.aliasTarget? name = some target := by simpa [found] using h
      obtain ⟨before, after, eq, _⟩ := List.lookup_eq_some_iff.1 target
      exact List.mem_append_right _ (by simp [eq])
  · cases h

/-- The names met from the type of a member along alias declarations. -/
def typeTrail (typeName : String) : List String :=
  (Walk.trail reg.aliasStep? reg.aliasNames (fun _ _ => reg.mem_aliasNames_of_aliasStep?) []
    typeName).names

/-- The name is declared as a struct of its own. -/
def isStruct (name : String) : Bool :=
  reg.classify name = .declared .struct

end Registry

namespace Closure

/-- What a walk over struct members has found. Structs are listed when all their members have been
followed. -/
structure Survey where
  order : List String := []
  enums : List String := []
  handles : List String := []
  aliases : List String := []
  baseTypes : List String := []
  dependencies : List String := []
  deriving DecidableEq, Repr

/-- Adds a name at the end, unless it is there. -/
def addNew (names : List String) (name : String) : List String :=
  if name ∈ names then names else names ++ [name]

namespace Survey

/-- Notes a type that a member uses. -/
def note (reg : Registry) (s : Survey) (name : String) : Survey :=
  match reg.classify name with
  | .declared .enum => { s with enums := addNew s.enums name }
  | .declared .handle => { s with handles := addNew s.handles name }
  | .declared .primitive => { s with baseTypes := addNew s.baseTypes name }
  | .declared .aliased => { s with aliases := addNew s.aliases name }
  | .declared .struct => { s with dependencies := addNew s.dependencies name }
  | .scalar => s
  | .unknown => s

/-- Lists a struct whose members have been followed. -/
def emit (s : Survey) (name : String) : Survey :=
  { s with order := s.order ++ [name] }

/-- The closure that a finished walk has found. -/
def toClosure (s : Survey) : DependencyClosure where
  order := s.order.map fun name => ⟨name, s.dependencies.contains name⟩
  enums := s.enums
  handles := s.handles
  aliases := s.aliases
  baseTypes := s.baseTypes

end Survey

/-- How the members of a declared struct that is not on the path are followed. -/
abbrev Entering (reg : Registry) (path : List String) : Type :=
  (name : String) → (d : StructDecl) → reg.structDecl? name = some d → name ∉ path → Survey →
    Except String Survey

/-- Follows the type of a member. The structs whose members are being followed are on the `path`; a
member by value that leads back to one of them closes a cycle. -/
def followMember (reg : Registry) (path : List String) (enter : Entering reg path) (s : Survey)
    (m : Member) : Except String Survey :=
  let trail := reg.typeTrail m.typeName
  let s := trail.foldl (Survey.note reg) s
  match trail.getLast?.filter reg.isStruct with
  | none => .ok s
  | some name =>
    if name ∈ s.order then .ok s
    else if onPath : name ∈ path then
      if m.isPointer then .ok s else .error name
    else
      match found : reg.structDecl? name with
      | none => .ok s
      | some d => do return (← enter name d found onPath s).emit name

/-- Follows the types of members, one after the other. -/
def follow (reg : Registry) (path : List String) (s : Survey) (members : List Member) :
    Except String Survey :=
  members.foldlM (followMember reg path fun name d found off s =>
    have _fewer := Walk.remaining_cons_lt (reg.mem_structNames_of_structDecl? found) off
    follow reg (name :: path) s d.members) s
termination_by Walk.remaining reg.structNames path

/-- Follows the members of a struct from which the walk starts, unless it has been met. -/
def visit (reg : Registry) (s : Survey) (name : String) : Except String Survey :=
  if name ∈ s.order then .ok s
  else
    match reg.structDecl? name with
    | none => .ok s
    | some d => do return (← follow reg [name] s d.members).emit name

/-- The structs from which the walk starts: enabled capability structs that are no aliases, then the
standalone structs. -/
def roots (reg : Registry) (disabled : DisabledSet) (rules : Rules) : List String :=
  ((reg.structs.filter fun d =>
    d.aliasOf.isNone && rules.isCapability d.name && !disabled.excludes d).map (·.name))
    ++ rules.standaloneStructs

end Closure

/-- The closure of a registry, or a struct that contains itself by value. -/
def DependencyClosure.compute (reg : Registry) (disabled : DisabledSet) (rules : Rules) :
    Except String DependencyClosure := do
  let survey ← (Closure.roots reg disabled rules).foldlM (Closure.visit reg) {}
  return survey.toClosure

end CapabilityRegistry
