import CapabilityRegistry.Traversal.Chain

/-!
# Resizing

After a first query the counting members are known. The vectors of the list members get that size, are
attached to the struct, and the query runs again.
-/

namespace CapabilityRegistry.Traversal

/-- The list members of one struct, with the path of the record that holds the vectors and the path of
the struct. -/
structure ResizeBlock where
  owner : String
  path : String
  lists : List ListMember
  deriving DecidableEq, Repr

/-- The block of a struct that joins the chain of properties and has list members. -/
def resizeBlock? (m : Mappings) (owner name field : String) : Option ResizeBlock :=
  let lists := listMembers m name
  if joins m name .properties && !lists.isEmpty then some ⟨owner, owner ++ "." ++ field, lists⟩
  else none

/-- All blocks of a model: core groups, the structs of the device itself, then extensions. -/
def resizeBlocks (model : Model) : List ResizeBlock :=
  let m := model.mappings
  m.coreGroups.flatMap (fun g => g.structs.filterMap fun s =>
    resizeBlock? m ("device." ++ coreGroupField g) s.name (coreField s.name))
  ++ (deviceStructs model).filterMap (fun f => resizeBlock? m "device" f.typeName f.name)
  ++ m.extensions.flatMap fun e => e.structs.filterMap fun s =>
    resizeBlock? m ("device." ++ Naming.extensionField e.name) s.name (Naming.structField s.name)

end CapabilityRegistry.Traversal
