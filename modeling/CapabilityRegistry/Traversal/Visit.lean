import CapabilityRegistry.Traversal.Record

/-!
# Visits

Templates through which a visitor sees the fields of structs and records, one call for each field.
-/

namespace CapabilityRegistry.Traversal

/-- A call of the visitor: the key, the path of the field, and the path of the number of elements if
the field is a list. -/
structure VisitCall where
  key : String
  path : String
  size : Option String := none
  deriving DecidableEq, Repr

/-- A template function with the calls that it makes. -/
structure VisitTemplate where
  function : String
  paramType : String
  param : String
  calls : List VisitCall
  deriving DecidableEq, Repr

/-- The words in the names of structs that are visited, with the variable that each one gets. -/
def traversalVariables : List (String × String) :=
  [("Properties", "properties"), ("Features", "features"), ("Limits", "limits")]

/-- The call for a member of a struct. -/
def memberCall (variableName : String) (m : Member) : VisitCall where
  key := m.name
  path := variableName ++ "->" ++ m.name
  size := if m.isPointer then m.lenAttr.map (variableName ++ "->" ++ ·) else none

/-- The template of a struct whose name tells what it holds. -/
def structTemplate? (d : StructDecl) : Option VisitTemplate := do
  let (_, variableName) ← traversalVariables.find? fun (word, _) => Text.contains d.name word
  return ⟨"Iterate", d.name, variableName, d.members.map (memberCall variableName)⟩

/-- The template of a core record. -/
def coreTemplate (g : CoreGroup) : VisitTemplate where
  function := "Iterate"
  paramType := coreRecordName g
  param := "core"
  calls := g.structs.map fun s => { key := coreField s.name, path := "core->" ++ coreField s.name }

/-- The template of a wrapper. -/
def wrapperTemplate (e : Requirer) : VisitTemplate where
  function := "Iterate"
  paramType := Naming.wrapperName e.name
  param := "structs"
  calls := e.structs.map fun s =>
    { key := Naming.memberKey s.name, path := "structs->" ++ Naming.structField s.name }

/-- The version in the name of a core feature. -/
def versionSuffix? (feature : String) : Option String :=
  (Text.stripStart? "VK_VERSION_" feature.toList).map String.ofList

/-- The template of a core feature. -/
def versionTemplate? (f : Requirer) : Option VisitTemplate := do
  let version ← versionSuffix? f.name
  return {
    function := "VisitVersion" ++ version
    paramType := "VkJsonDevice"
    param := "device"
    calls := f.structs.map fun s =>
      let field := Naming.structField s.name
      { key := Naming.displayName field, path := "device->" ++ field } }

/-- All templates of a model. -/
def visitTemplates (model : Model) : List VisitTemplate :=
  let decls := model.closure.order.filterMap fun e => model.registry.structDecl? e.name
  decls.filterMap structTemplate? ++ model.mappings.coreGroups.map coreTemplate
    ++ model.mappings.extensions.map wrapperTemplate
    ++ model.mappings.features.filterMap versionTemplate?

end CapabilityRegistry.Traversal
