import CapabilityRegistry.Proofs.Bindings.Tables
import CapabilityRegistry.Proofs.Extraction.Representation
import Mathlib.Data.List.Forall2

/-!
# Types that are declared once

The lines that declare types go through `declaredNames` one by one (`forall₂_declares`). The names of all
sections differ, but for structs that the rules emit by themselves: one that is an alias is emitted as a
struct, and again as an alias where it is used or stands for an emitted struct (`declared_once_iff`).
-/

namespace CapabilityRegistry.Bindings

/-! ## The lines that declare types -/

/-- How the lines that declare types start. -/
def typeStarts : List String := ["pub struct ", "pub type "]

/-- The line declares a type. -/
def declaresType (line : String) : Bool :=
  typeStarts.any fun start => start.toList.isPrefixOf line.toList

/-- A line that starts so declares a type, whatever follows. -/
lemma declaresType_append {start rest : String} (listed : start ∈ typeStarts) :
    declaresType (start ++ rest) = true := by
  refine List.any_eq_true.2 ⟨start, listed, ?_⟩
  rw [List.isPrefixOf_iff_prefix, String.toList_append]
  exact List.prefix_append _ _

/-- A line that starts in another way declares no type. -/
lemma not_declaresType_append {start rest : String}
    (apart : ∀ s ∈ typeStarts, ¬ s.toList <+: start.toList ∧ ¬ start.toList <+: s.toList) :
    declaresType (start ++ rest) = false := by
  apply List.any_eq_false.2
  intro s listed starts
  rw [List.isPrefixOf_iff_prefix, String.toList_append] at starts
  obtain before | behind := List.prefix_or_prefix_of_prefix starts (List.prefix_append start.toList rest.toList)
  · exact (apart s listed).1 before
  · exact (apart s listed).2 behind

/-- Lines that start in another way declare no types. -/
lemma filter_map_of_apart {α : Type} {f : α → String} {l : List α} (start : String)
    (starts : ∀ a, ∃ rest, f a = start ++ rest)
    (apart : ∀ s ∈ typeStarts, ¬ s.toList <+: start.toList ∧ ¬ start.toList <+: s.toList) :
    (l.map f).filter declaresType = [] := by
  rw [List.filter_eq_nil_iff]
  intro line mem
  obtain ⟨a, _, rfl⟩ := List.mem_map.1 mem
  obtain ⟨rest, spelt⟩ := starts a
  rw [spelt, not_declaresType_append apart]
  exact Bool.false_ne_true

/-- The first line of an enum is seen to declare a type. -/
lemma declaresType_enumLine {e : EnumBinding} : declaresType (enumLine e) = true := by
  rw [enumLine, String.append_assoc, String.append_assoc, String.append_assoc]
  exact declaresType_append (by decide)

/-- The first line of a struct is seen to declare a type. -/
lemma declaresType_structLine {s : StructBinding} : declaresType (structLine s) = true := by
  unfold structLine
  split
  all_goals
    rw [String.append_assoc]
    exact declaresType_append (by decide)

/-- The line of an alias is seen to declare a type. -/
lemma declaresType_aliasLine {binding : String × String} : declaresType (aliasLine binding) = true := by
  rw [aliasLine, String.append_assoc, String.append_assoc, String.append_assoc]
  exact declaresType_append (by decide)

/-- One line of an enum declares a type. -/
lemma filter_enum {e : EnumBinding} : e.lines.filter declaresType = [enumLine e] := by
  have opening : declaresType ("impl " ++ e.name ++ " \x7b") = false := by
    rw [String.append_assoc]
    exact not_declaresType_append (by decide)
  have head : declaresType ("pub struct " ++ e.name ++ "(pub " ++ e.repr.render ++ ");") = true :=
    declaresType_enumLine
  have fixed : ∀ line ∈ ["", "#[repr(transparent)]", "#[derive(Clone, Copy, Debug, PartialEq, Eq, Hash)]",
      "\x7d"], declaresType line = false := by decide
  simp only [List.forall_mem_cons] at fixed
  rw [EnumBinding.lines, List.filter_append, List.filter_append,
    filter_map_of_apart "    pub const " ?constants (by decide)]
  · simp [head, opening, fixed, enumLine]
  · intro c
    exact ⟨c.1 ++ ": Self = Self(" ++ c.2.render ++ ");", by simp only [String.append_assoc]⟩

/-- One line of a struct declares a type. -/
lemma filter_struct {s : StructBinding} : s.lines.filter declaresType = [structLine s] := by
  have fixed : ∀ line ∈ ["", "#[repr(C)]", "#[derive(Clone, Copy, Debug)]", "\x7d"],
      declaresType line = false := by decide
  simp only [List.forall_mem_cons] at fixed
  have head : declaresType (structLine s) = true := declaresType_structLine
  unfold StructBinding.lines
  unfold structLine at head ⊢
  split
  next empty =>
    rw [if_pos empty] at head
    simp [head, fixed]
  next occupied =>
    rw [if_neg occupied] at head
    rw [List.filter_append, List.filter_append, List.filter_append,
      filter_map_of_apart "    pub " ?fields (by decide)]
    · simp [head, fixed]
    · intro f
      exact ⟨f.1 ++ ": " ++ f.2.render ++ ",", by simp only [String.append_assoc]⟩

section tables
open Text (inQuotes)

/-- The head of a table declares no type. -/
lemma filter_tableHead {name type : String} : (tableHead name type).filter declaresType = [] := by
  have head : declaresType ("pub const " ++ name ++ ": " ++ type ++ " = &[") = false := by
    simp only [String.append_assoc]
    exact not_declaresType_append (by decide)
  have blank : declaresType "" = false := by decide
  simp [tableHead, head, blank]

/-- The lines of an entry of a table declare no type. -/
lemma filter_entryLines {key : String} {items : List String} :
    (entryLines key items).filter declaresType = [] := by
  have name : declaresType ("        " ++ inQuotes key ++ ",") = false := by
    rw [String.append_assoc]
    exact not_declaresType_append (by decide)
  have held : (items.map ("            " ++ ·)).filter declaresType = [] :=
    filter_map_of_apart "            " (fun i => ⟨i, rfl⟩) (by decide)
  have fixed : ∀ line ∈ ["    (", "        &[", "        ],", "    ),"], declaresType line = false := by
    decide
  simp only [List.forall_mem_cons] at fixed
  simp [entryLines, name, held, fixed]

/-- No line of a table declares a type. -/
lemma filter_table {t : Table} : t.lines.filter declaresType = [] := by
  have close : declaresType "];" = false := by decide
  cases t with
  | names name items =>
    have held : (items.map fun i => "    " ++ inQuotes i ++ ",").filter declaresType = [] :=
      filter_map_of_apart "    " (fun i => ⟨inQuotes i ++ ",", String.append_assoc⟩) (by decide)
    simp [Table.lines, filter_tableHead, held, close]
  | pairs name entries =>
    have held : (entries.map fun e => "    " ++ pairText e).filter declaresType = [] :=
      filter_map_of_apart "    " (fun e => ⟨pairText e, rfl⟩) (by decide)
    simp [Table.lines, filter_tableHead, held, close]
  | groups name entries => simp [Table.lines, filter_tableHead, filter_entryLines, List.filter_flatMap, close]
  | lists name entries => simp [Table.lines, filter_tableHead, filter_entryLines, List.filter_flatMap, close]

end tables

variable {b : Bindings}

/-- Of all lines those declare types that are made for the preamble, enums, aliases, handles and structs. -/
lemma filter_lines :
    b.lines.filter declaresType = preambleAliases.map aliasLine ++ b.enums.map enumLine
      ++ b.typeAliases.map aliasLine ++ b.handles.map handleLine ++ b.structs.map structLine
      ++ b.structAliases.map aliasLine := by
  have fixed : preamble.filter declaresType = preambleAliases.map aliasLine := by decide +kernel
  have blank : declaresType "" = false := by decide
  have constants : (b.constants.map (·.line)).filter declaresType = [] := by
    refine filter_map_of_apart "pub const " (fun c => ?_) (by decide)
    exact ⟨c.name ++ ": " ++ c.typeName ++ " = " ++ c.value ++ ";", by
      simp only [ConstantBinding.line, String.append_assoc]⟩
  have versions : (b.versions.map versionLine).filter declaresType = [] := by
    refine filter_map_of_apart "pub const " (fun v => ?_) (by decide)
    exact ⟨v.1 ++ ": u32 = " ++ toString v.2.toNat ++ ";", by
      simp only [versionLine, String.append_assoc]⟩
  have aliases : ∀ l : List (String × String), (l.map aliasLine).filter declaresType = l.map aliasLine := by
    intro l
    rw [List.filter_eq_self]
    intro line mem
    obtain ⟨binding, _, rfl⟩ := List.mem_map.1 mem
    exact declaresType_aliasLine
  have handles : (b.handles.map handleLine).filter declaresType = b.handles.map handleLine := by
    have pairs := aliases (b.handles.map fun name => (name, "*mut c_void"))
    rw [List.map_map] at pairs
    exact pairs
  have enums : b.enums.flatMap (fun e => [enumLine e]) = b.enums.map enumLine :=
    List.map_eq_flatMap.symm
  have structs : b.structs.flatMap (fun s => [structLine s]) = b.structs.map structLine :=
    List.map_eq_flatMap.symm
  simp [lines, List.filter_flatMap, filter_enum, filter_struct, filter_table, fixed, blank, constants,
    versions, aliases, handles, enums, structs]

/-- Lines that each declare their item declare all items in order. -/
lemma forall₂_map {α : Type} {line name : α → String} {l : List α}
    (declares : ∀ a, Declares (line a) (name a)) : List.Forall₂ Declares (l.map line) (l.map name) := by
  rw [List.forall₂_map_left_iff, List.forall₂_map_right_iff, List.forall₂_same]
  exact fun a _ => declares a

/-- The lines that declare types declare the names of all sections, one by one. -/
theorem forall₂_declares : List.Forall₂ Declares (b.lines.filter declaresType) b.declaredNames := by
  have handles : List.Forall₂ Declares (b.handles.map handleLine) (b.handles.map id) :=
    forall₂_map fun _ => declares_aliasLine
  rw [List.map_id] at handles
  rw [filter_lines, declaredNames]
  apply List.rel_append _ (forall₂_map fun _ => declares_aliasLine)
  apply List.rel_append _ (forall₂_map fun _ => declares_structLine)
  apply List.rel_append _ handles
  apply List.rel_append _ (forall₂_map fun _ => declares_aliasLine)
  apply List.rel_append _ (forall₂_map fun _ => declares_enumLine)
  exact forall₂_map fun _ => declares_aliasLine

/-! ## Names of one kind per section -/

/-- Sections whose names are told apart by labels have no name in common. -/
lemma nodup_flatMap_of_labels {α γ : Type} {sections : List (γ × List α)} {label : α → γ}
    (apart : (sections.map (·.1)).Nodup) (labelled : ∀ s ∈ sections, ∀ a ∈ s.2, label a = s.1) :
    (sections.flatMap (·.2)).Nodup ↔ ∀ s ∈ sections, s.2.Nodup := by
  rw [List.nodup_flatMap, and_iff_left_iff_imp]
  intro _
  refine (List.pairwise_map.1 apart).imp_of_mem fun {s s'} mem mem' other => ?_
  intro a held held'
  exact other ((labelled s mem a held).symm.trans (labelled s' mem' a held'))

/-- What a name is declared as, apart from structs and their aliases. -/
def label (reg : Registry) (name : String) : Option TypeClass :=
  if (reg.structDecl? name).isSome then none else some (reg.classify name)

/-- The sections of bindings, each with the label of its names. -/
def sections (model : Model) (b : Bindings) : List (Option TypeClass × List String) :=
  [(some .scalar, preambleAliases.map (·.1)), (some (.declared .enum), b.enums.map (·.name)),
    (some (.declared .aliased), (model.closure.aliases.filterMap (aliasBinding? model.registry)).map (·.1)),
    (some (.declared .primitive), (model.closure.baseTypes.filterMap (baseBinding? model.registry)).map (·.1)),
    (some (.declared .handle), b.handles), (none, b.structs.map (·.name) ++ b.structAliases.map (·.1))]

variable {reg : Registry} {rules : Rules} {model : Model}

/-- The declared names are those of the sections, one section after the other. -/
lemma declaredNames_eq (bound : Bound model b) :
    b.declaredNames = (sections model b).flatMap (·.2) := by
  simp [declaredNames, sections, bound.typeAliases]

/-! ## The labels of names -/

section labels
variable {disabled : DisabledSet} {name : String}

/-- The name of a struct or of an alias of one has no label. -/
lemma label_of_struct {d : StructDecl} (found : reg.structDecl? name = some d) : label reg name = none := by
  rw [label, found]
  rfl

/-- A name that is used has the label of its kind, unless a struct is declared under it. -/
lemma label_of_uses {kind : TypeKind} (used : reg.Uses disabled rules kind name)
    (undeclared : reg.structDecl? name = none) : label reg name = some (.declared kind) := by
  rw [label, undeclared, used.1]
  rfl

/-- The types of the preamble are scalars. -/
lemma label_of_preamble (mem : name ∈ preambleAliases.map (·.1)) (fresh : name ∉ reg.structNames) :
    label reg name = some .scalar := by
  have scalars : ∀ name ∈ preambleAliases.map (·.1), name ∈ knownScalars := by decide
  have undeclared : reg.structDecl? name = none := by
    apply Option.eq_none_iff_forall_ne_some.2
    intro d found
    exact fresh (reg.mem_structNames_of_structDecl? found)
  have scalar : reg.classify name = .scalar := if_pos (.inr (.inr (scalars name mem)))
  rw [label, undeclared, scalar]
  rfl

end labels

/-- Bindings under the names that they are made for keep the order of these names. -/
lemma bindings_sublist {bind? : String → Option (String × String)} {names : List String}
    (keeps : ∀ name binding, bind? name = some binding → binding.1 = name) :
    ((names.filterMap bind?).map (·.1)).Sublist names := by
  have kept : ((names.filterMap bind?).map (·.1)).Sublist (names.map id) := map_filterMap_sublist keeps
  rwa [List.map_id] at kept

/-- A bound alias has its own name, and no struct is declared under that. -/
lemma aliasBinding?_inv {name : String} {binding : String × String}
    (made : aliasBinding? reg name = some binding) : binding.1 = name ∧ reg.structDecl? name = none := by
  unfold aliasBinding? at made
  split at made
  next => cases made
  next undeclared =>
    obtain ⟨target, _, rfl⟩ := Option.map_eq_some_iff.1 made
    exact ⟨rfl, Option.not_isSome_iff_eq_none.1 undeclared⟩

/-- A bound base type has its own name. -/
lemma baseBinding?_inv {name : String} {binding : String × String}
    (made : baseBinding? reg name = some binding) : binding.1 = name := by
  obtain ⟨_, _, rfl⟩ := Option.map_eq_some_iff.1 made
  rfl

section declared
variable (distinct : reg.structNames.Nodup) (made : Model.Made reg rules model) (bound : Bound model b)

include distinct made bound

/-- The names of each section have its label. -/
lemma labelled_sections (fresh : ∀ name ∈ preambleAliases.map (·.1), name ∉ reg.structNames) :
    ∀ s ∈ sections model b, ∀ name ∈ s.2, label reg name = s.1 := by
  have contents := Closure.compute_exact made.closure
  have registry := made.registry
  intro s mem name held
  simp only [sections, List.mem_cons, List.not_mem_nil, or_false] at mem
  obtain rfl | rfl | rfl | rfl | rfl | rfl := mem
  · exact label_of_preamble held (fresh name held)
  · have used := (mem_enums_iff_uses made bound).1 held
    exact label_of_uses used (Registry.declaredAs_of_classify used.1).1
  · rw [registry] at held
    obtain ⟨_, mem, rfl⟩ := List.mem_map.1 held
    obtain ⟨_, listed, binds⟩ := List.mem_filterMap.1 mem
    obtain ⟨rfl, undeclared⟩ := aliasBinding?_inv binds
    exact label_of_uses ((contents.aliases.mem _).1 listed) undeclared
  · obtain ⟨_, mem, rfl⟩ := List.mem_map.1 held
    obtain ⟨_, listed, binds⟩ := List.mem_filterMap.1 mem
    cases baseBinding?_inv binds
    have used := (contents.baseTypes.mem _).1 listed
    exact label_of_uses used (Registry.declaredAs_of_classify used.1).1
  · rw [bound.handles] at held
    have used := (contents.handles.mem name).1 held
    exact label_of_uses used (Registry.declaredAs_of_classify used.1).1
  · obtain held | held := List.mem_append.1 held
    · obtain ⟨d, found⟩ := ((mem_structs_iff_reachable made bound).1 held).exists_structDecl?
      exact label_of_struct found
    · obtain ⟨d, listed, target, rfl, _⟩ := (mem_structAliases_iff made bound).1 held
      exact label_of_struct ((Registry.structDecl?_eq_some_iff distinct).2 ⟨listed, rfl⟩)

omit distinct in
/-- No struct is bound twice, since the closure lists each name once. -/
lemma nodup_names_structs : (b.structs.map (·.name)).Nodup := by
  have listed : (b.structs.map (·.name)).Sublist (Closure.structs model.closure) := by
    rw [names_structs bound]
    apply map_filterMap_sublist
    intro e d found
    exact (Registry.mem_structs_of_structDecl? found).2
  exact (Closure.compute_exact made.closure).structs.nodup.sublist listed

/-- No alias of a struct is bound twice where no struct name is declared twice. -/
lemma nodup_names_structAliases : (b.structAliases.map (·.1)).Nodup := by
  have listed : (b.structAliases.map (·.1)).Sublist reg.structNames := by
    rw [bound.structAliases, made.registry]
    apply map_filterMap_sublist
    intro d binding standing
    obtain ⟨target, _, _, rfl⟩ := structAlias?_eq_some_iff.1 standing
    rfl
  exact distinct.sublist listed

omit distinct in
/-- No enum is bound twice where none is declared twice. -/
lemma nodup_names_enums (enums : (reg.enums.map (·.name)).Nodup) : (b.enums.map (·.name)).Nodup := by
  rw [bound.enums, made.registry, List.map_map]
  exact enums.sublist (List.filter_sublist.map _)

/-- The declared names differ where no struct has the name of an alias. -/
lemma nodup_declaredNames (fresh : ∀ name ∈ preambleAliases.map (·.1), name ∉ reg.structNames)
    (enums : (reg.enums.map (·.name)).Nodup) :
    b.declaredNames.Nodup ↔ (b.structs.map (·.name)).Disjoint (b.structAliases.map (·.1)) := by
  have contents := Closure.compute_exact made.closure
  have apart : ((sections model b).map (·.1)).Nodup := by
    show ([some .scalar, some (.declared .enum), some (.declared .aliased), some (.declared .primitive),
      some (.declared .handle), none] : List (Option TypeClass)).Nodup
    decide
  have handles : b.handles.Nodup := by
    rw [bound.handles]
    exact contents.handles.nodup
  rw [declaredNames_eq bound, nodup_flatMap_of_labels apart (labelled_sections distinct made bound fresh)]
  constructor
  · intro each
    exact (List.nodup_append'.1 (each (none, _) (by simp [sections]))).2.2
  · intro disjoint
    simp only [sections, List.forall_mem_cons, List.not_mem_nil, IsEmpty.forall_iff, implies_true, and_true]
    refine ⟨by decide, nodup_names_enums made bound enums, ?_, ?_, handles, ?_⟩
    · exact contents.aliases.nodup.sublist (bindings_sublist fun _ _ made => (aliasBinding?_inv made).1)
    · exact contents.baseTypes.nodup.sublist (bindings_sublist fun _ _ => baseBinding?_inv)
    · exact List.nodup_append'.2
        ⟨nodup_names_structs made bound, nodup_names_structAliases distinct made bound, disjoint⟩

end declared

/-! ## Structs that are aliases -/

/-- The name is that of an alias which is emitted as such: a member uses it, or it stands for an emitted
struct and is not disabled. -/
def BoundAsAlias (reg : Registry) (disabled : DisabledSet) (rules : Rules) (name : String) : Prop :=
  ∃ d target, reg.structDecl? name = some d ∧ d.aliasOf = some target ∧
    (reg.Uses disabled rules .aliased name ∨
      (reg.Reachable disabled rules target ∧ disabled.contains name = false))

/-- The enums of a document have different names. -/
lemma nodup_names_of_ofDocument {root : Markup.Element} (read : Registry.ofDocument root = .ok reg) :
    (reg.enums.map (·.name)).Nodup :=
  (Extraction.readFrom_of_ofDocument read).nodup_enums

/-- Structs and aliases have a name in common exactly when the rules emit an alias by itself that is emitted
as an alias as well. -/
lemma disjoint_iff (distinct : reg.structNames.Nodup) (made : Model.Made reg rules model)
    (bound : Bound model b) :
    (b.structs.map (·.name)).Disjoint (b.structAliases.map (·.1)) ↔
      ∀ name ∈ rules.standaloneStructs, ¬ BoundAsAlias reg model.disabled rules name := by
  have aliased : ∀ name, name ∈ b.structAliases.map (·.1) ↔ BoundAsAlias reg model.disabled rules name := by
    intro name
    rw [mem_structAliases_iff made bound]
    constructor
    · intro h
      obtain ⟨d, listed, target, same, h⟩ := h
      exact ⟨d, target, (Registry.structDecl?_eq_some_iff distinct).2 ⟨listed, same⟩, h⟩
    · intro h
      obtain ⟨d, target, found, h⟩ := h
      obtain ⟨listed, same⟩ := Registry.mem_structs_of_structDecl? found
      exact ⟨d, listed, target, same, h⟩
  constructor
  · intro disjoint name standalone again
    have listed := (aliased name).2 again
    obtain ⟨d, target, found, _⟩ := again
    have emitted := (mem_structs_iff_reachable made bound).2 (reachable_of_standalone found standalone)
    exact disjoint emitted listed
  · intro apart name emitted listed
    have again := (aliased name).1 listed
    have reachable := (mem_structs_iff_reachable made bound).1 emitted
    obtain ⟨d, found, own | standalone⟩ := rooted_of_reachable distinct reachable
    · obtain ⟨d', target, found', stands, _⟩ := again
      cases found.symm.trans found'
      cases own.symm.trans stands
    · exact apart name standalone again

/-- Every line that declares a type declares one of the declared names, each in its turn, and no name is
declared twice exactly when no standalone struct is an alias that is emitted as such. -/
theorem declared_once_iff {root : Markup.Element} (done : Model.build root rules = .ok model)
    (distinct : model.registry.structNames.Nodup)
    (fresh : ∀ name ∈ preambleAliases.map (·.1), name ∉ model.registry.structNames)
    (generated : ofModel model = .ok b) :
    List.Forall₂ Declares (b.lines.filter declaresType) b.declaredNames ∧
      (b.declaredNames.Nodup ↔
        ∀ name ∈ rules.standaloneStructs, ¬ BoundAsAlias model.registry model.disabled rules name) := by
  obtain ⟨reg, read, made⟩ := bind_eq_ok.1 done
  have made := Model.made_of_ofRegistry made
  have bound := bound_of_ofModel generated
  have enums := nodup_names_of_ofDocument (mapError_eq_ok.1 read)
  cases made.registry
  refine ⟨forall₂_declares, ?_⟩
  rw [nodup_declaredNames distinct made bound fresh enums, disjoint_iff distinct made bound]

/-- A document that declares a struct and an alias of it. -/
def renamedFormats : Markup.Element where
  name := "registry"
  children := [.element "types" [] [
    .element "type" [("category", "struct"), ("name", "VkFormatProperties3")] [
      .element "member" [] [.element "type" [] [.text "uint64_t"], .element "name" [] [.text "features"]]],
    .element "type" [("category", "struct"), ("name", "VkFormatProperties3KHR"),
      ("alias", "VkFormatProperties3")] []]]

/-- Rules that emit these structs by themselves. -/
def standing (names : List String) : Rules where
  standaloneStructs := names

/-- The struct and the alias, with the other declarations that are read. -/
def renamedRegistry : Registry where
  structs := [
    { name := "VkFormatProperties3", members := [Closure.bareMember "features" "uint64_t" 0] },
    { name := "VkFormatProperties3KHR", aliasOf := some "VkFormatProperties3", members := [] }]
  typeAliases := [("VkFormatProperties3KHR", "VkFormatProperties3")]

/-- The document has a model and bindings, whether or not the alias stands by itself. -/
lemma renamedFormats_bindings {names : List String}
    (either : names = ["VkFormatProperties3"] ∨ names = ["VkFormatProperties3", "VkFormatProperties3KHR"]) :
    ∃ model b, Model.build renamedFormats (standing names) = .ok model ∧ ofModel model = .ok b ∧
      model.registry = renamedRegistry ∧
      b.structs = names.map (fun name =>
        ⟨name, if name = "VkFormatProperties3" then [("features", .base "u64")] else []⟩) ∧
      b.structAliases = [("VkFormatProperties3KHR", "VkFormatProperties3")] := by
  let disabled := DisabledSet.compute renamedRegistry (standing names)
  let closure : DependencyClosure := { order := names.map (⟨·, false⟩) }
  have read : Registry.ofDocument renamedFormats = .ok renamedRegistry := rfl
  have closed : DependencyClosure.compute renamedRegistry disabled (standing names) = .ok closure := by
    rcases either with rfl | rfl <;> decide +kernel
  obtain ⟨m, built⟩ : ∃ m, Mappings.build renamedRegistry disabled closure (standing names) = .ok m :=
    ⟨_, rfl⟩
  let model : Model := ⟨standing names, renamedRegistry, disabled, closure, m⟩
  have made : Model.build renamedFormats (standing names) = .ok model :=
    bind_eq_ok.2 ⟨renamedRegistry, mapError_eq_ok.2 read, Model.ofRegistry_of_parts closed built⟩
  have emitted : (closure.order.filterMap fun e => renamedRegistry.structDecl? e.name).mapM
      (structBinding renamedRegistry) = .ok (names.map fun name =>
        ⟨name, if name = "VkFormatProperties3" then [("features", .base "u64")] else []⟩) := by
    rcases either with rfl | rfl <;> decide +kernel
  obtain ⟨b, generated, structs⟩ : ∃ b, ofModel model = .ok b ∧ b.structs = _ := exists_bindings emitted
  refine ⟨model, b, made, generated, rfl, structs, ?_⟩
  rw [(bound_of_ofModel generated).structAliases]
  rcases either with rfl | rfl <;> rfl

/-- With the struct behind an alias standing by itself the alias is declared, and that once. -/
theorem declared_once_iff_standing :
    ∃ model b, Model.build renamedFormats (standing ["VkFormatProperties3"]) = .ok model ∧
      ofModel model = .ok b ∧ "pub type VkFormatProperties3KHR = VkFormatProperties3;" ∈ b.lines ∧
      b.declaredNames.Nodup := by
  obtain ⟨model, b, done, generated, registry, _, aliases⟩ := renamedFormats_bindings (.inl rfl)
  have distinct : model.registry.structNames.Nodup := by
    rw [registry]
    decide
  have fresh : ∀ name ∈ preambleAliases.map (·.1), name ∉ model.registry.structNames := by
    rw [registry]
    decide
  have line : aliasLine ("VkFormatProperties3KHR", "VkFormatProperties3") ∈ b.lines := by
    have mem : aliasLine ("VkFormatProperties3KHR", "VkFormatProperties3") ∈ b.structAliases.map aliasLine := by
      rw [aliases]
      exact List.mem_singleton_self _
    exact mem_lines_of_section (.inr (.inr (.inr (.inr (.inr mem)))))
  refine ⟨model, b, done, generated, line, (declared_once_iff done distinct fresh generated).2.2 ?_⟩
  intro name standalone again
  cases List.mem_singleton.1 standalone
  obtain ⟨d, target, found, stands, _⟩ := again
  rw [registry] at found
  cases found
  cases stands

/-- An alias that stands by itself as well is declared as a struct without fields and as an alias. -/
theorem not_declared_once_standing :
    ∃ model b, Model.build renamedFormats (standing ["VkFormatProperties3", "VkFormatProperties3KHR"]) =
        .ok model ∧ ofModel model = .ok b ∧ model.registry.structNames.Nodup ∧
      (∀ name ∈ preambleAliases.map (·.1), name ∉ model.registry.structNames) ∧
      "pub struct VkFormatProperties3KHR \x7b\x7d" ∈ b.lines ∧
      "pub type VkFormatProperties3KHR = VkFormatProperties3;" ∈ b.lines ∧ ¬ b.declaredNames.Nodup := by
  obtain ⟨model, b, done, generated, registry, structs, aliases⟩ := renamedFormats_bindings (.inr rfl)
  have struct : ⟨"VkFormatProperties3KHR", []⟩ ∈ b.structs := by
    rw [structs]
    exact List.mem_cons_of_mem _ List.mem_cons_self
  have renamed : ("VkFormatProperties3KHR", "VkFormatProperties3") ∈ b.structAliases := by
    rw [aliases]
    exact List.mem_singleton_self _
  have opening : "pub struct VkFormatProperties3KHR \x7b\x7d" ∈ b.structs.flatMap (·.lines) :=
    List.mem_flatMap.2 ⟨_, struct, by decide +kernel⟩
  have line : aliasLine ("VkFormatProperties3KHR", "VkFormatProperties3") ∈ b.structAliases.map aliasLine :=
    List.mem_map_of_mem renamed
  refine ⟨model, b, done, generated, ?_, ?_, mem_lines_of_section (.inr (.inr (.inr (.inr (.inl opening))))),
    mem_lines_of_section (.inr (.inr (.inr (.inr (.inr line))))), fun nodup => ?_⟩
  · rw [registry]
    decide
  · rw [registry]
    decide
  · have apart := (List.nodup_append'.1 nodup).2.2
    exact apart (List.mem_append_right _ (List.mem_map_of_mem struct)) (List.mem_map_of_mem renamed)

end CapabilityRegistry.Bindings
