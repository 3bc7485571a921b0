import CapabilityRegistry.Distinct
import CapabilityRegistry.Registry
import CapabilityRegistry.Registry.Constant
import CapabilityRegistry.Registry.Member
import CapabilityRegistry.Text.DecimalDigit

/-!
# Reading a registry

The declarations of a registry document, in document order. Reading fails at the first declaration
that lacks a part it must have: types come before features, and features before extensions.
-/

namespace CapabilityRegistry

open Markup (Element)

/-- What a declaration lacks. -/
inductive Defect where
  | namelessStruct
  | untypedMember (member owner : String)
  | namelessFeature
  | notANumber (key text enumerant : String)
  deriving DecidableEq, Repr

/-- The wording of a defect. -/
def Defect.message : Defect → String
  | namelessStruct => "struct declaration without a name"
  | untypedMember member owner => "member '" ++ member ++ "' of '" ++ owner ++ "' has no type"
  | namelessFeature => "feature without a name"
  | notANumber key text enumerant =>
    key ++ " '" ++ text ++ "' of '" ++ enumerant ++ "' is not a number"

namespace Extraction

/-- The API whose declarations are read. -/
def targetApi : String := "vulkan"

/-- The enums block that holds constants. -/
def constantsBlock : String := "API Constants"

/-- The element belongs to the API that is read. -/
def targetsApi (e : Element) : Bool :=
  (e.attr? "api").all fun apis => (Text.splitAt ',' apis).any (Text.trimmed · == targetApi)

/-! ## Types -/

/-- A member of a struct, unless it has no name or only chains structs. -/
def member? (owner : String) (e : Element) : Except Defect (Option Member) :=
  match e.childText? "name" with
  | none => .ok none
  | some name =>
    if name ∈ chainMembers then .ok none
    else
      match e.childText? "type" with
      | none => .error (.untypedMember name owner)
      | some typeName => .ok (some (Member.ofElement e name typeName))

/-- The type tag: the values of the last `sType` member. -/
def typeTag? (members : List Element) : Option String :=
  (members.filter fun m => m.childText? "name" == some "sType").getLast?.bind (·.attr? "values")

/-- A declaration of a struct or union. -/
def struct (e : Element) : Except Defect StructDecl := do
  match e.attr? "name" with
  | none => throw .namelessStruct
  | some name =>
    let declared := (e.elementsNamed "member").filter targetsApi
    let members ← declared.mapM (member? name)
    return {
      name
      aliasOf := e.attr? "alias"
      extended := e.attr? "structextends"
      typeTag := typeTag? declared
      members := members.filterMap id }

/-- The element declares a type of this category. -/
def hasCategory (category : String) (e : Element) : Bool :=
  (e.attr? "category").getD "" == category

/-- The name of a handle, reduced to the characters of identifiers. -/
def handleName? (e : Element) : Option String := do
  let name ← e.childText? "name"
  let kept := name.toList.filter fun c => c.isAlphanum || c == '_'
  if kept.isEmpty then none else some (String.ofList kept)

/-- The name and the base type of a type definition. -/
def typedef? (e : Element) : Option (String × String) := do
  let base ← e.childText? "type"
  let name ← e.childText? "name"
  if Text.contains e.leadingText "typedef" then some (name, base) else none

/-- The name and the target of an alias declaration. -/
def aliasPair? (e : Element) : Option (String × String) := do
  return (← e.attr? "name", ← e.attr? "alias")

/-- The name is `VK_API_VERSION_` and two numbers with an underscore between them. -/
def isVersionName (name : String) : Bool :=
  match Text.stripStart? "VK_API_VERSION_" name.toList with
  | none => false
  | some numbers =>
    match numbers.dropWhile Text.isDecimalDigit with
    | '_' :: minor =>
      numbers.head?.any Text.isDecimalDigit && !minor.isEmpty && minor.all Text.isDecimalDigit
    | _ => false

/-- The arguments in parentheses after the name of a macro. -/
def macroArguments? (macroName : String) (body : String) : Option (List (List Char)) := do
  let call ← Text.afterFirst? macroName.toList body.toList
  let inner ← Text.stripStart? "(" (Text.trimStart call)
  return Text.pieces ',' (inner.takeWhile (· ≠ ')'))

/-- A version that a definition packs from four numbers. -/
def apiVersion? (e : Element) : Option (String × ApiVersion) := do
  let name ← e.childText? "name"
  guard (isVersionName name)
  let macroName ← e.childText? "type"
  let arguments ← macroArguments? macroName e.allText
  let numbers ← arguments.mapM fun a => Numeral.unsigned? 32 (Text.trim a)
  match numbers with
  | [variant, major, minor, patch] =>
    some (name, ⟨variant.toUInt32, major.toUInt32, minor.toUInt32, patch.toUInt32⟩)
  | _ => none

/-! ## Enums and constants -/

/-- The value of an enumerant: its number unless that is empty, else its bit position. -/
def enumValue? (e : Element) : Option EnumValue :=
  match (e.attr? "value").filter (· ≠ ""), e.attr? "bitpos" with
  | some number, _ => some (.value number)
  | none, some bit => some (.bitPos bit)
  | none, none => none

/-- An enumerant with a name and a value. -/
def enumMember? (e : Element) : Option EnumMember := do
  return ⟨← e.attr? "name", ← enumValue? e⟩

/-- The enum that a block declares. -/
def enumDecl? (block : Element) : Option EnumDecl := do
  let name ← block.attr? "name"
  guard (name ≠ constantsBlock)
  return ⟨name, (block.attr? "type").getD "enum", (block.elementsNamed "enum").filterMap enumMember?⟩

/-- A constant that has a value of its own. -/
def apiConstant? (e : Element) : Option ApiConstant := do
  let name ← e.attr? "name"
  guard (e.attr? "alias").isNone
  let value ← e.attr? "value"
  let typeName := (e.attr? "type").getD "uint32_t"
  return ⟨name, Constant.clean value typeName, typeName⟩

/-! ## Requirements -/

/-- An attribute that must be a number if it is there. -/
def number? (e : Element) (enumerant key : String) : Except Defect (Option Int) :=
  match e.attr? key with
  | none => .ok none
  | some text =>
    match Numeral.parseInt text with
    | some n => .ok (some n)
    | none => .error (.notANumber key text enumerant)

/-- An enumerant that a requirement adds to an enum. -/
def enumExtension? (e : Element) : Except Defect (Option EnumExtension) := do
  match e.attr? "name", e.attr? "extends" with
  | some name, some enumName =>
    let offset ← number? e name "offset"
    let extnumber ← number? e name "extnumber"
    return some {
      name
      enumName
      offset
      extnumber
      value := e.attr? "value"
      aliasOf := e.attr? "alias"
      negative := e.attr? "dir" == some "-" }
  | _, _ => return none

/-- All that the requirements of a feature or extension name. -/
def requirements (e : Element) : Except Defect Requirements := do
  let blocks := e.elementsNamed "require"
  let types := blocks.flatMap fun b => (b.elementsNamed "type").filterMap (·.attr? "name")
  let enums ← (blocks.flatMap (·.elementsNamed "enum")).mapM enumExtension?
  return ⟨types, enums.filterMap id⟩

/-- A feature. -/
def feature (e : Element) : Except Defect Feature := do
  match e.attr? "name" with
  | none => throw .namelessFeature
  | some name => return ⟨name, (e.attr? "api").getD "", ← requirements e⟩

/-- An extension, unless it has no name. -/
def extension? (e : Element) : Except Defect (Option Extension) := do
  match e.attr? "name" with
  | none => return none
  | some name =>
    return some {
      name
      number := (e.attr? "number").bind Numeral.parseInt
      supported := (e.attr? "supported").getD ""
      platform := e.attr? "platform"
      requires := ← requirements e }

end Extraction

open Extraction

/-- The registry of a document. -/
def Registry.ofDocument (root : Element) : Except Defect Registry := do
  let types := ((root.elementsNamed "types").flatMap (·.elementsNamed "type")).filter targetsApi
  let blocks := root.elementsNamed "enums"
  let constants := blocks.filter fun b => b.attr? "name" == some constantsBlock
  let structs ← (types.filter fun t => hasCategory "struct" t || hasCategory "union" t).mapM struct
  let features ← (root.elementsNamed "feature").mapM feature
  let extensions ←
    ((root.elementsNamed "extensions").flatMap (·.elementsNamed "extension")).mapM extension?
  return {
    structs
    enums := distinctOn (·.name) (blocks.filterMap Extraction.enumDecl?)
    handles := distinct ((types.filter (hasCategory "handle")).filterMap handleName?)
    flagAliases := ((types.filter (hasCategory "bitmask")).filterMap typedef?).filter fun (_, base) =>
      base ∈ flagBaseTypes
    baseTypes := (types.filter (hasCategory "basetype")).filterMap typedef?
    typeAliases := types.filterMap aliasPair?
    apiConstants := (constants.flatMap (·.elementsNamed "enum")).filterMap apiConstant?
    apiVersions := (types.filter (hasCategory "define")).filterMap apiVersion?
    extensions := extensions.filterMap id
    features }

end CapabilityRegistry
