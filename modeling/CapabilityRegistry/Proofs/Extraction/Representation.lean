import CapabilityRegistry.Proofs.Distinct
import CapabilityRegistry.Proofs.Extraction.Defects
import CapabilityRegistry.Proofs.Text

/-!
# What holds of a registry

A registry that is read from a document lists enums and handles under different names, and its structs have members
that carry data only (`represented_of_ofDocument`). A name finds the first declaration that has it, also when
the places of the names are kept in an index (`finds_find?`), and it is of the kind of the first section that declares
it (`kindOf?_eq_some_iff`).
-/

namespace CapabilityRegistry

variable {α : Type} {nameOf : α → String} {l : List α} {name : String}

/-! ## Indexes -/

/-- Keeps the place of a name, unless the name has one. -/
def keepPlace (index : List (String × Nat)) (entry : String × Nat) : List (String × Nat) :=
  if (index.lookup entry.1).isSome then index else entry :: index

/-- The places of names, which are numbered from the start of their list. -/
def index (names : List String) : List (String × Nat) :=
  names.zipIdx.foldl keepPlace []

/-- The first entry of a name. -/
def FirstNamed (nameOf : α → String) (l : List α) (name : String) (a : α) : Prop :=
  ∃ before after, l = before ++ a :: after ∧ nameOf a = name ∧ ∀ b ∈ before, nameOf b ≠ name

/-- A lookup gives the first entry of a name, which stands at the place that the index has for the name. -/
structure Finds (nameOf : α → String) (l : List α) (find? : String → Option α) : Prop where
  first : ∀ name a, find? name = some a ↔ FirstNamed nameOf l name a
  absent : ∀ name, find? name = none ↔ ∀ a ∈ l, nameOf a ≠ name
  indexed : ∀ name, ((index (l.map nameOf)).lookup name).bind (l[·]?) = find? name

/-- Of several places for a name the first one is kept. -/
lemma lookup_foldl_keepPlace {entries places : List (String × Nat)} :
    (entries.foldl keepPlace places).lookup name = (places.lookup name).or (entries.lookup name) := by
  induction entries generalizing places with
  | nil => exact Option.or_none.symm
  | cons entry entries ih =>
    rw [List.foldl_cons, ih, keepPlace]
    by_cases same : name = entry.1
    · subst same
      split
      next held =>
        obtain ⟨place, found⟩ := Option.isSome_iff_exists.1 held
        rw [found, Option.some_or, Option.some_or]
      next new =>
        rw [Option.not_isSome_iff_eq_none.1 new, List.lookup_cons_self, Option.none_or, List.lookup_cons_self,
          Option.some_or]
    · have other : (name == entry.1) = false := beq_false_of_ne same
      split
      next => rw [List.lookup_cons, other]
      next => rw [List.lookup_cons, List.lookup_cons, other]

/-- The entry at the place of a name is the first one of that name. -/
lemma getElem?_place (before : List α) :
    (((l.map nameOf).zipIdx before.length).lookup name).bind ((before ++ l)[·]?) = l.find? (nameOf · == name) := by
  induction l generalizing before with
  | nil => rfl
  | cons a l ih =>
    rw [List.map_cons, List.zipIdx_cons, List.lookup_cons, List.find?_cons, BEq.comm]
    cases nameOf a == name with
    | true => simp
    | false =>
      have next := ih (before ++ [a])
      rwa [List.length_append, List.length_singleton, List.append_assoc, List.singleton_append] at next

/-- To search a list by name gives the first entry of the name. -/
lemma finds_find? : Finds nameOf l fun name => l.find? (nameOf · == name) where
  first name a := by
    rw [List.find?_eq_some_iff_append, FirstNamed, ← exists_and_left]
    simp only [beq_iff_eq, Bool.not_eq_true', beq_eq_false_iff_ne, ← exists_and_left, and_left_comm, ne_eq]
  absent name := by
    rw [List.find?_eq_none]
    simp
  indexed name := by
    rw [index, lookup_foldl_keepPlace]
    exact getElem?_place []

namespace Registry

/-! ## Kinds -/

/-- The sections of a registry that declare types. -/
inductive Section where
  | structs
  | enums
  | handles
  | aliases
  | baseTypes

/-- The sections in the order in which they are asked for a name. -/
def Section.all : List Section :=
  [.structs, .enums, .handles, .aliases, .baseTypes]

/-- A section declares a name as a type of a kind. Of the structs only the first one of the name counts. -/
inductive Declares (reg : Registry) (name : String) : Section → TypeKind → Prop where
  | struct {d : StructDecl} : FirstNamed (·.name) reg.structs name d → d.aliasOf = none →
      Declares reg name .structs .struct
  | structAlias {d : StructDecl} {target : String} : FirstNamed (·.name) reg.structs name d →
      d.aliasOf = some target → Declares reg name .structs .aliased
  | enum {d : EnumDecl} : d ∈ reg.enums → d.name = name → Declares reg name .enums .enum
  | handle : name ∈ reg.handles → Declares reg name .handles .handle
  | flags {base : String} : (name, base) ∈ reg.flagAliases → Declares reg name .aliases .aliased
  | typeAlias {target : String} : (name, target) ∈ reg.typeAliases → Declares reg name .aliases .aliased
  | base {type : String} : (name, type) ∈ reg.baseTypes → Declares reg name .baseTypes .primitive

/-- The kind as which one section declares a name. -/
def kindIn? (reg : Registry) (name : String) : Section → Option TypeKind
  | .structs => (reg.structDecl? name).map fun d => if d.aliasOf.isSome then .aliased else .struct
  | .enums => if (reg.enumDecl? name).isSome then some .enum else none
  | .handles => if reg.isHandle name then some .handle else none
  | .aliases => if (reg.flagAlias? name).isSome || (reg.aliasTarget? name).isSome then some .aliased else none
  | .baseTypes => if (reg.baseType? name).isSome then some .primitive else none

variable {reg : Registry} {kind : TypeKind}

/-- The kind of a name is that of the first section that has it. -/
lemma kindOf?_eq : reg.kindOf? name = Section.all.findSome? (reg.kindIn? name) := by
  unfold kindOf?
  simp only [Section.all, List.findSome?_cons, List.findSome?_nil, kindIn?]
  cases reg.structDecl? name with
  | some d => rfl
  | none =>
    -- each test is that of one section, in the same order
    cases (reg.enumDecl? name).isSome with
    | true => rfl
    | false =>
      cases reg.isHandle name with
      | true => rfl
      | false =>
        cases (reg.flagAlias? name).isSome || (reg.aliasTarget? name).isSome with
        | true => rfl
        | false => cases (reg.baseType? name).isSome <;> rfl

/-- A name is found where some entry has it. -/
lemma isSome_lookup_iff {entries : List (String × String)} :
    (entries.lookup name).isSome = true ↔ ∃ text, (name, text) ∈ entries := by
  rw [Option.isSome_iff_exists]
  exact ⟨fun ⟨text, found⟩ => ⟨text, mem_of_lookup found⟩, fun ⟨_, mem⟩ => exists_lookup_of_mem mem⟩

/-- Structs are found by their names. -/
lemma finds_structDecl? (reg : Registry) : Finds (·.name) reg.structs reg.structDecl? :=
  finds_find?

/-- Enums are found by their names. -/
lemma finds_enumDecl? (reg : Registry) : Finds (·.name) reg.enums reg.enumDecl? :=
  finds_find?

/-- An enum is found under the names that enums have. -/
lemma isSome_enumDecl?_iff : (reg.enumDecl? name).isSome = true ↔ ∃ d ∈ reg.enums, d.name = name := by
  rw [enumDecl?, List.find?_isSome]
  simp only [beq_iff_eq]

/-- The computed kind of a name in a section is the one that it declares. -/
lemma kindIn?_eq_some_iff {s : Section} : reg.kindIn? name s = some kind ↔ reg.Declares name s kind := by
  cases s with
  | structs =>
    constructor
    · intro known
      obtain ⟨d, found, rfl⟩ := Option.map_eq_some_iff.1 known
      have first := (reg.finds_structDecl?.first name d).1 found
      cases stands : d.aliasOf with
      | none => exact .struct first stands
      | some target => exact .structAlias first stands
    · intro declares
      cases declares with
      | struct first own => rw [kindIn?, (reg.finds_structDecl?.first name _).2 first, Option.map_some, own]; rfl
      | structAlias first stands =>
        rw [kindIn?, (reg.finds_structDecl?.first name _).2 first, Option.map_some, stands]
        rfl
  | enums =>
    rw [kindIn?, Option.ite_none_right_eq_some, isSome_enumDecl?_iff]
    constructor
    · rintro ⟨⟨d, mem, named⟩, ⟨⟩⟩
      exact .enum mem named
    · intro declares
      cases declares with
      | enum mem named => exact ⟨⟨_, mem, named⟩, rfl⟩
  | handles =>
    rw [kindIn?, Option.ite_none_right_eq_some, isHandle, List.contains_iff_mem]
    constructor
    · rintro ⟨mem, ⟨⟩⟩
      exact .handle mem
    · intro declares
      cases declares with
      | handle mem => exact ⟨mem, rfl⟩
  | aliases =>
    rw [kindIn?, Option.ite_none_right_eq_some, Bool.or_eq_true, flagAlias?, aliasTarget?, isSome_lookup_iff,
      isSome_lookup_iff]
    constructor
    · rintro ⟨⟨_, mem⟩ | ⟨_, mem⟩, ⟨⟩⟩
      · exact .flags mem
      · exact .typeAlias mem
    · intro declares
      cases declares with
      | flags mem => exact ⟨.inl ⟨_, mem⟩, rfl⟩
      | typeAlias mem => exact ⟨.inr ⟨_, mem⟩, rfl⟩
  | baseTypes =>
    rw [kindIn?, Option.ite_none_right_eq_some, baseType?, isSome_lookup_iff]
    constructor
    · rintro ⟨⟨_, mem⟩, ⟨⟩⟩
      exact .base mem
    · intro declares
      cases declares with
      | base mem => exact ⟨⟨_, mem⟩, rfl⟩

/-- A name is of the kind as which the first section declares it that does. -/
lemma kindOf?_eq_some_iff :
    reg.kindOf? name = some kind ↔ FirstGiven (reg.Declares name) Section.all kind := by
  rw [kindOf?_eq]
  exact findSome?_eq_some_iff_firstGiven fun _ _ => kindIn?_eq_some_iff

end Registry

namespace Extraction

open Markup (Element)

variable {root e : Element} {reg : Registry}

/-! ## What is read -/

/-- The types that count for the API that is read. -/
def typeElements (root : Element) : List Element :=
  ((root.elementsNamed "types").flatMap (·.elementsNamed "type")).filter targetsApi

/-- The sections of a registry are read from the document. -/
structure ReadFrom (root : Element) (reg : Registry) : Prop where
  structs : (structElements root).mapM struct = .ok reg.structs
  enums : reg.enums = distinctOn (·.name) ((root.elementsNamed "enums").filterMap enumDecl?)
  handles : reg.handles = distinct (((typeElements root).filter (hasCategory "handle")).filterMap handleName?)
  constants : reg.apiConstants = (((root.elementsNamed "enums").filter fun block =>
    block.attr? "name" == some constantsBlock).flatMap (·.elementsNamed "enum")).filterMap apiConstant?
  versions : reg.apiVersions = ((typeElements root).filter (hasCategory "define")).filterMap apiVersion?

/-- All lists of a registry are read from one document. -/
lemma readFrom_of_ofDocument (read : Registry.ofDocument root = .ok reg) : ReadFrom root reg := by
  obtain ⟨structs, structsRead, read⟩ := bind_eq_ok.1 read
  obtain ⟨features, _, read⟩ := bind_eq_ok.1 read
  obtain ⟨extensions, _, read⟩ := bind_eq_ok.1 read
  cases read
  exact ⟨structsRead, rfl, rfl, rfl, rfl⟩

/-- The enums of a document have different names. -/
lemma ReadFrom.nodup_enums (readFrom : ReadFrom root reg) : (reg.enums.map (·.name)).Nodup := by
  rw [readFrom.enums]
  exact nodup_map_distinctOn

/-- The text of a child is trimmed and not empty. -/
lemma childText?_eq_some {tag text : String} (found : e.childText? tag = some text) :
    text ≠ "" ∧ Text.trimmed text = text := by
  obtain ⟨found, nonempty⟩ := Option.filter_eq_some_iff.1 found
  obtain ⟨c, _, rfl⟩ := Option.map_eq_some_iff.1 found
  refine ⟨by simpa using nonempty, ?_⟩
  rw [Text.trimmed, Text.trimmed, String.toList_ofList, Text.trim_trim]

/-- A member that carries data, under a name of its own and with a type. -/
structure CarriesData (m : Member) : Prop where
  named : m.name ≠ ""
  trimmed : Text.trimmed m.name = m.name
  data : m.name ∉ ["sType", "pNext"]
  typed : m.typeName ≠ ""

/-- A member that is kept carries data. -/
lemma carriesData_of_member? {owner : String} {m : Member} (read : member? owner e = .ok (some m)) :
    CarriesData m := by
  unfold member? at read
  split at read
  next => cases read
  next name named =>
    split at read
    next => cases read
    next data =>
      split at read
      next => cases read
      next typeName typed =>
        cases read
        obtain ⟨nonempty, trimmed⟩ := childText?_eq_some named
        exact ⟨nonempty, trimmed, data, (childText?_eq_some typed).1⟩

/-- All members of a struct that is read carry data. -/
lemma carriesData_of_struct {d : StructDecl} {m : Member} (read : struct e = .ok d) (mem : m ∈ d.members) :
    CarriesData m := by
  unfold struct at read
  split at read
  next => cases read
  next name _ =>
    obtain ⟨members, membersRead, read⟩ := bind_eq_ok.1 read
    cases read
    obtain ⟨_, mem, rfl⟩ := List.mem_filterMap.1 mem
    obtain ⟨e, _, read⟩ := (mem_of_mapM membersRead).1 mem
    exact carriesData_of_member? read

/-- The name of a handle is an identifier. -/
lemma identifier_of_handleName? (read : handleName? e = some name) :
    name ≠ "" ∧ ∀ c ∈ name.toList, c.isAlphanum = true ∨ c = '_' := by
  obtain ⟨text, _, read⟩ := Option.bind_eq_some_iff.1 read
  obtain ⟨nonempty, same⟩ := Option.ite_none_left_eq_some.1 read
  cases same
  refine ⟨?_, fun c mem => ?_⟩
  · rintro empty
    apply nonempty
    rw [List.isEmpty_iff, ← String.ofList_eq_empty_iff]
    exact empty
  · rw [String.toList_ofList] at mem
    simpa using (List.mem_filter.1 mem).2

/-- The block of constants is not read as an enum. -/
lemma name_ne_of_enumDecl? {d : EnumDecl} (read : enumDecl? e = some d) : d.name ≠ "API Constants" := by
  obtain ⟨name, _, read⟩ := Option.bind_eq_some_iff.1 read
  obtain ⟨_, other, read⟩ := Option.bind_eq_some_iff.1 read
  cases read
  unfold guard at other
  split at other
  next differ => exact differ
  next => cases other

/-! ## What holds of a registry -/

/-- What the later stages rely on in a registry. -/
structure Represented (reg : Registry) : Prop where
  structs : Finds (·.name) reg.structs reg.structDecl?
  enums : Finds (·.name) reg.enums reg.enumDecl?
  enumNames : (reg.enums.map (·.name)).Nodup
  noConstants : ∀ d ∈ reg.enums, d.name ≠ "API Constants"
  handles : reg.handles.Nodup
  identifiers : ∀ name ∈ reg.handles, name ≠ "" ∧ ∀ c ∈ name.toList, c.isAlphanum = true ∨ c = '_'
  members : ∀ d ∈ reg.structs, ∀ m ∈ d.members, CarriesData m
  kinds : ∀ name kind, reg.kindOf? name = some kind ↔
    FirstGiven (reg.Declares name) [.structs, .enums, .handles, .aliases, .baseTypes] kind

/-- The registry of a document finds the first declarations of names and the kinds of the first sections that declare
them; its enums and handles have names of their own, and its members carry data. -/
theorem represented_of_ofDocument (read : Registry.ofDocument root = .ok reg) : Represented reg := by
  have readFrom := readFrom_of_ofDocument read
  refine ⟨reg.finds_structDecl?, reg.finds_enumDecl?, readFrom.nodup_enums, ?_, ?_, ?_, ?_,
    fun _ _ => Registry.kindOf?_eq_some_iff⟩
  · rw [readFrom.enums]
    intro d mem
    obtain ⟨e, _, read⟩ := List.mem_filterMap.1 (distinctOn_subset mem)
    exact name_ne_of_enumDecl? read
  · rw [readFrom.handles]
    exact nodup_distinct
  · rw [readFrom.handles]
    intro name mem
    obtain ⟨e, _, read⟩ := List.mem_filterMap.1 (mem_distinct.1 mem)
    exact identifier_of_handleName? read
  · intro d declared m mem
    obtain ⟨e, _, read⟩ := (mem_of_mapM readFrom.structs).1 declared
    exact carriesData_of_struct read mem

/-- A member with a type. -/
def typedMember (type name : String) : Markup.Node :=
  .element "member" [] [.element "type" [] [.text type], .text " ", .element "name" [] [.text name]]

/-- A document that declares a struct, an enum and a handle twice. -/
def declaringTwice : Element where
  name := "registry"
  children := [
    .element "types" [] [
      .element "type" [("category", "struct"), ("name", "VkHeap")] [
        typedMember "VkStructureType" "sType", typedMember "VkKind" " kind "],
      .element "type" [("category", "struct"), ("name", "VkHeap"), ("alias", "VkMemory")] [],
      .element "type" [("category", "enum"), ("name", "VkHeap"), ("alias", "VkKind")] [],
      .element "type" [("category", "handle")] [.element "name" [] [.text "(VkQueue)"]],
      .element "type" [("category", "handle")] [.element "name" [] [.text "VkQueue"]]],
    .element "enums" [("name", "API Constants")] [],
    .element "enums" [("name", "VkKind"), ("type", "bitmask")] [],
    .element "enums" [("name", "VkKind"), ("type", "enum")] []]

/-- Its registry: both declarations of the struct, and what was there first of the others. -/
def declaredOnce : Registry where
  structs := [
    { name := "VkHeap", members := [⟨"kind", "VkKind", "VkKind", false, 0, none, none, false⟩] },
    { name := "VkHeap", aliasOf := some "VkMemory", members := [] }]
  enums := [⟨"VkKind", "bitmask", []⟩]
  handles := ["VkQueue"]
  typeAliases := [("VkHeap", "VkMemory"), ("VkHeap", "VkKind")]

/-- In a document that declares everything twice the first declarations count. -/
theorem represented_of_ofDocument_twice :
    Registry.ofDocument declaringTwice = .ok declaredOnce ∧ Represented declaredOnce ∧
      declaredOnce.kindOf? "VkHeap" = some .struct := by
  have read : Registry.ofDocument declaringTwice = .ok declaredOnce := rfl
  exact ⟨read, represented_of_ofDocument read, by decide⟩

end Extraction
end CapabilityRegistry
