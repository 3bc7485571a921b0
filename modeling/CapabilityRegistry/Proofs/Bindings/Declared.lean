import CapabilityRegistry.Bindings.Printer
import CapabilityRegistry.Proofs.Closure.Contents
import CapabilityRegistry.Proofs.Model

/-!
# Declared types

Which types the generated bindings declare: the reachable structs, the aliases one step away from one,
every type that their members meet, and those of the preamble (`mem_declaredNames_iff`). Each of them has
a line that declares it (`exists_line_of_declared`).
-/

namespace CapabilityRegistry.Bindings

/-! ## Declarations and their lines -/

/-- The type aliases of the preamble. -/
def preambleAliases : List (String × String) :=
  [("VkBool32", "u32"), ("VkDeviceSize", "u64"), ("VkFlags", "u32"), ("VkFlags64", "u64")]

/-- The types that bindings declare, section by section. -/
def declaredNames (b : Bindings) : List String :=
  preambleAliases.map (·.1) ++ b.enums.map (·.name) ++ b.typeAliases.map (·.1) ++ b.handles
    ++ b.structs.map (·.name) ++ b.structAliases.map (·.1)

/-- A line that declares a type, as a struct with fields in parentheses or braces or as an alias. -/
def Declares (line name : String) : Prop :=
  ∃ rest, line = "pub struct " ++ name ++ "(" ++ rest ∨ line = "pub struct " ++ name ++ " \x7b" ++ rest ∨
    line = "pub type " ++ name ++ " = " ++ rest

section lines
variable {b : Bindings}

/-- Each section that declares types has its lines in the bindings. -/
lemma mem_lines_of_section {line : String}
    (mem : line ∈ preamble ∨ line ∈ b.enums.flatMap (·.lines) ∨ line ∈ b.typeAliases.map aliasLine ∨
      line ∈ b.handles.map handleLine ∨ line ∈ b.structs.flatMap (·.lines) ∨
      line ∈ b.structAliases.map aliasLine) : line ∈ b.lines := by
  simp only [lines, List.mem_append, List.mem_cons]
  tauto

/-- The line of an alias declares the name in front of the equals sign. -/
lemma declares_aliasLine {binding : String × String} : Declares (aliasLine binding) binding.1 :=
  ⟨binding.2 ++ ";", .inr (.inr (by rw [aliasLine, ← String.append_assoc]))⟩

/-- The line that declares an enum. -/
def enumLine (e : EnumBinding) : String :=
  "pub struct " ++ e.name ++ "(pub " ++ e.repr.render ++ ");"

/-- The line that declares a struct. -/
def structLine (s : StructBinding) : String :=
  if s.fields.isEmpty then "pub struct " ++ s.name ++ " \x7b\x7d" else "pub struct " ++ s.name ++ " \x7b"

/-- The line of an enum declares its name, whatever its representation is. -/
lemma declares_enumLine {e : EnumBinding} : Declares (enumLine e) e.name := by
  refine ⟨"pub " ++ e.repr.render ++ ");", .inl ?_⟩
  have opened : "(pub " = "(" ++ "pub " := rfl
  rw [enumLine, opened]
  simp only [String.append_assoc]

/-- The line of a struct declares its name, with fields or without. -/
lemma declares_structLine {s : StructBinding} : Declares (structLine s) s.name := by
  unfold structLine
  split
  next =>
    refine ⟨"\x7d", .inr (.inl ?_)⟩
    simp only [String.append_assoc]
    rfl
  next => exact ⟨"", .inr (.inl String.append_empty.symm)⟩

/-- The block of an enum declares it. -/
lemma exists_line_of_enum (e : EnumBinding) : ∃ line ∈ e.lines, Declares line e.name :=
  ⟨enumLine e, by simp [EnumBinding.lines, enumLine], declares_enumLine⟩

/-- The block of a struct declares it. -/
lemma exists_line_of_struct (s : StructBinding) : ∃ line ∈ s.lines, Declares line s.name := by
  refine ⟨structLine s, ?_, declares_structLine⟩
  unfold StructBinding.lines structLine
  split
  next => simp
  next => simp

/-- Every declared type has a line that declares it. -/
theorem exists_line_of_declared {name : String} (declared : name ∈ b.declaredNames) :
    ∃ line ∈ b.lines, Declares line name := by
  have fixed : ∀ binding ∈ preambleAliases, aliasLine binding ∈ preamble := by decide +kernel
  simp only [declaredNames, List.mem_append, List.mem_map] at declared
  obtain ((((h | h) | h) | listed) | h) | h := declared
  · obtain ⟨binding, listed, rfl⟩ := h
    exact ⟨_, mem_lines_of_section (.inl (fixed binding listed)), declares_aliasLine⟩
  · obtain ⟨e, listed, rfl⟩ := h
    obtain ⟨line, mem, declares⟩ := exists_line_of_enum e
    exact ⟨line, mem_lines_of_section (.inr (.inl (List.mem_flatMap.2 ⟨e, listed, mem⟩))), declares⟩
  · obtain ⟨binding, listed, rfl⟩ := h
    have mem := List.mem_map_of_mem (f := aliasLine) listed
    exact ⟨_, mem_lines_of_section (.inr (.inr (.inl mem))), declares_aliasLine⟩
  · have mem := List.mem_map_of_mem (f := handleLine) listed
    exact ⟨_, mem_lines_of_section (.inr (.inr (.inr (.inl mem)))), declares_aliasLine⟩
  · obtain ⟨s, listed, rfl⟩ := h
    obtain ⟨line, mem, declares⟩ := exists_line_of_struct s
    have mem := List.mem_flatMap.2 ⟨s, listed, mem⟩
    exact ⟨line, mem_lines_of_section (.inr (.inr (.inr (.inr (.inl mem))))), declares⟩
  · obtain ⟨binding, listed, rfl⟩ := h
    have mem := List.mem_map_of_mem (f := aliasLine) listed
    exact ⟨_, mem_lines_of_section (.inr (.inr (.inr (.inr (.inr mem))))), declares_aliasLine⟩

end lines

/-! ## What is declared -/

/-- Where the declarations of bindings come from. -/
structure Bound (model : Model) (b : Bindings) : Prop where
  enums : b.enums = (model.registry.enums.filter fun d => model.closure.usesEnum d.name).map
    (enumBinding model.mappings.growable)
  constants : b.constants = model.registry.apiConstants.map constantBinding
  versions : b.versions = model.registry.apiVersions.map fun (name, v) => (name, v.packed)
  typeAliases : b.typeAliases = model.closure.aliases.filterMap (aliasBinding? model.registry)
    ++ model.closure.baseTypes.filterMap (baseBinding? model.registry)
  handles : b.handles = model.closure.handles
  structs : (model.closure.order.filterMap fun e => model.registry.structDecl? e.name).mapM
    (structBinding model.registry) = .ok b.structs
  structAliases : b.structAliases = model.registry.structs.filterMap (structAlias? model)
  tables : b.tables = tablesOf model.mappings

/-- Bindings that there are have been made so. -/
theorem bound_of_ofModel {model : Model} {b : Bindings} (done : ofModel model = .ok b) : Bound model b := by
  obtain ⟨structs, bound, done⟩ := bind_eq_ok.1 done
  cases done
  exact ⟨rfl, rfl, rfl, rfl, rfl, bound, rfl, rfl⟩

/-- Only a member of unknown type can make bindings fail. -/
lemma exists_bindings {model : Model} {structs : List StructBinding}
    (bound : (model.closure.order.filterMap fun e => model.registry.structDecl? e.name).mapM
      (structBinding model.registry) = .ok structs) :
    ∃ b, ofModel model = .ok b ∧ b.structs = structs :=
  ⟨_, bind_eq_ok.2 ⟨structs, bound, rfl⟩, rfl⟩

section declared
variable {reg : Registry} {rules : Rules} {model : Model} {b : Bindings} {name : String}

/-- The bindings of structs have the names of the declarations that they are made from. -/
lemma names_structs (bound : Bound model b) :
    b.structs.map (·.name) =
      (model.closure.order.filterMap fun e => model.registry.structDecl? e.name).map (·.name) := by
  have keeps : ∀ {d : StructDecl} {s : StructBinding}, structBinding model.registry d = .ok s →
      s.name = d.name := by
    intro d s done
    obtain ⟨fields, _, done⟩ := bind_eq_ok.1 done
    cases done
    rfl
  exact map_eq_map_of_mapM keeps bound.structs

/-- The reachable structs are bound. -/
lemma mem_structs_iff_reachable (made : Model.Made reg rules model) (bound : Bound model b) :
    name ∈ b.structs.map (·.name) ↔ reg.Reachable model.disabled rules name := by
  rw [names_structs bound, made.registry, ← Closure.mem_structs_iff made.closure]
  simp only [List.mem_map, List.mem_filterMap, Closure.structs]
  constructor
  · intro h
    obtain ⟨d, ⟨e, listed, found⟩, rfl⟩ := h
    exact ⟨e, listed, (Registry.mem_structs_of_structDecl? found).2.symm⟩
  · intro h
    obtain ⟨e, listed, rfl⟩ := h
    have reachable := (Closure.mem_structs_iff made.closure e.name).1 (List.mem_map_of_mem listed)
    obtain ⟨d, found⟩ := reachable.exists_structDecl?
    exact ⟨d, ⟨e, listed, found⟩, (Registry.mem_structs_of_structDecl? found).2⟩

/-- The bound enums are those that members of reachable structs use. -/
lemma mem_enums_iff_uses (made : Model.Made reg rules model) (bound : Bound model b) :
    name ∈ b.enums.map (·.name) ↔ reg.Uses model.disabled rules .enum name := by
  have contents := Closure.compute_exact made.closure
  rw [← contents.enums.mem, bound.enums, made.registry, List.map_map]
  simp only [List.mem_map, List.mem_filter, DependencyClosure.usesEnum, List.contains_iff_mem,
    Function.comp_apply, enumBinding]
  constructor
  · intro h
    obtain ⟨d, ⟨_, used⟩, rfl⟩ := h
    exact used
  · intro used
    obtain ⟨_, declared⟩ := Registry.declaredAs_of_classify ((contents.enums.mem name).1 used).1
    obtain ⟨d, found⟩ := Option.isSome_iff_exists.1 declared
    have same : d.name = name := by simpa using List.find?_some found
    exact ⟨d, ⟨List.mem_of_find?_eq_some found, same ▸ used⟩, same⟩

/-- The aliases of types are the base types that members use, and the aliases they use that are no struct's
name. -/
lemma mem_typeAliases_iff_uses (made : Model.Made reg rules model) (bound : Bound model b) :
    name ∈ b.typeAliases.map (·.1) ↔ reg.Uses model.disabled rules .primitive name ∨
      (reg.Uses model.disabled rules .aliased name ∧ reg.structDecl? name = none) := by
  have contents := Closure.compute_exact made.closure
  rw [← contents.baseTypes.mem, ← contents.aliases.mem, bound.typeAliases, made.registry]
  simp only [List.map_append, List.mem_append, List.mem_map, List.mem_filterMap]
  rw [or_comm]
  apply or_congr
  · constructor
    · intro h
      obtain ⟨_, ⟨x, listed, bound⟩, rfl⟩ := h
      obtain ⟨underlying, _, rfl⟩ := Option.map_eq_some_iff.1 bound
      exact listed
    · intro listed
      obtain ⟨_, declared⟩ := Registry.declaredAs_of_classify ((contents.baseTypes.mem name).1 listed).1
      obtain ⟨underlying, found⟩ := Option.isSome_iff_exists.1 declared
      exact ⟨_, ⟨name, listed, by rw [baseBinding?, found]; rfl⟩, rfl⟩
  · constructor
    · intro h
      obtain ⟨_, ⟨x, listed, bound⟩, rfl⟩ := h
      unfold aliasBinding? at bound
      split at bound
      next => cases bound
      next undeclared =>
        obtain ⟨target, _, rfl⟩ := Option.map_eq_some_iff.1 bound
        exact ⟨listed, Option.not_isSome_iff_eq_none.1 undeclared⟩
    · intro h
      obtain ⟨listed, undeclared⟩ := h
      obtain ⟨d, target, found, _⟩ | ⟨_, declared⟩ :=
        Registry.declaredAs_of_classify ((contents.aliases.mem name).1 listed).1
      · cases undeclared.symm.trans found
      · have target : (reg.flagAlias? name <|> reg.aliasTarget? name).isSome := by
          simpa using declared
        obtain ⟨target, found⟩ := Option.isSome_iff_exists.1 target
        exact ⟨_, ⟨name, listed, by rw [aliasBinding?, undeclared, found]; rfl⟩, rfl⟩

/-- An alias of a struct is bound if a member uses it, or if its target is in the closure and its own name is
not disabled. -/
lemma structAlias?_eq_some_iff {d : StructDecl} {binding : String × String} :
    structAlias? model d = some binding ↔ ∃ target, d.aliasOf = some target ∧
      (model.closure.usesAlias d.name = true ∨
        (model.closure.contains target = true ∧ model.disabled.contains d.name = false)) ∧
      (d.name, target) = binding := by
  unfold structAlias?
  cases d.aliasOf with
  | none => simp
  | some target => simp [Option.bind_eq_bind]

/-- An alias of a struct is bound if it is used, or if its target is reachable and it is not disabled itself.
Its target counts and not the end of its chain. -/
lemma mem_structAliases_iff (made : Model.Made reg rules model) (bound : Bound model b) :
    name ∈ b.structAliases.map (·.1) ↔ ∃ d ∈ reg.structs, ∃ target, d.name = name ∧
      d.aliasOf = some target ∧ (reg.Uses model.disabled rules .aliased name ∨
        (reg.Reachable model.disabled rules target ∧ model.disabled.contains name = false)) := by
  have used : ∀ x, model.closure.usesAlias x = true ↔ reg.Uses model.disabled rules .aliased x := by
    intro x
    rw [DependencyClosure.usesAlias, List.contains_iff_mem]
    exact (Closure.compute_exact made.closure).aliases.mem x
  have held : ∀ x, model.closure.contains x = true ↔ reg.Reachable model.disabled rules x := by
    intro x
    rw [← Closure.mem_structs_iff made.closure, Closure.structs]
    simp [DependencyClosure.contains]
  simp only [bound.structAliases, made.registry, List.mem_map, List.mem_filterMap,
    structAlias?_eq_some_iff, used, held]
  constructor
  · intro h
    obtain ⟨_, ⟨d, declared, target, stands, kept, rfl⟩, rfl⟩ := h
    exact ⟨d, declared, target, rfl, stands, kept⟩
  · intro h
    obtain ⟨d, declared, target, rfl, stands, kept⟩ := h
    exact ⟨_, ⟨d, declared, target, stands, kept, rfl⟩, rfl⟩

/-- The declared types are the reachable structs, the aliases of reachable structs that are not disabled,
what members meet, and the types of the preamble. -/
theorem mem_declaredNames_iff (made : Model.Made reg rules model) (bound : Bound model b) :
    name ∈ b.declaredNames ↔ reg.Reachable model.disabled rules name ∨
      (model.disabled.contains name = false ∧ ∃ d ∈ reg.structs, ∃ target, d.name = name ∧
        d.aliasOf = some target ∧ reg.Reachable model.disabled rules target) ∨
      (∃ kind, reg.Uses model.disabled rules kind name) ∨ name ∈ preambleAliases.map (·.1) := by
  have handles := (Closure.compute_exact made.closure).handles.mem name
  simp only [declaredNames, List.mem_append, mem_enums_iff_uses made bound,
    mem_typeAliases_iff_uses made bound, bound.handles, handles, mem_structs_iff_reachable made bound,
    mem_structAliases_iff made bound]
  constructor
  · intro h
    obtain ((((fixed | used) | used | used) | used) | reachable) | h := h
    · exact .inr (.inr (.inr fixed))
    · exact .inr (.inr (.inl ⟨_, used⟩))
    · exact .inr (.inr (.inl ⟨_, used⟩))
    · exact .inr (.inr (.inl ⟨_, used.1⟩))
    · exact .inr (.inr (.inl ⟨_, used⟩))
    · exact .inl reachable
    · obtain ⟨d, declared, target, same, stands, used | ⟨reachable, enabled⟩⟩ := h
      · exact .inr (.inr (.inl ⟨_, used⟩))
      · exact .inr (.inl ⟨enabled, d, declared, target, same, stands, reachable⟩)
  · intro h
    obtain reachable | ⟨enabled, d, declared, target, same, stands, reachable⟩ | ⟨kind, used⟩ | fixed := h
    · exact .inl (.inr reachable)
    · exact .inr ⟨d, declared, target, same, stands, .inr ⟨reachable, enabled⟩⟩
    · cases kind with
      -- a struct that a member uses has been followed, and is reachable
      | struct =>
        obtain ⟨kind, owner, reachable, mentions⟩ := used
        have composes := Registry.composes_iff_mentions.2 ⟨kind, mentions⟩
        exact .inl (.inr (reachable.tail composes))
      | enum => exact .inl (.inl (.inl (.inl (.inr used))))
      | handle => exact .inl (.inl (.inr used))
      | primitive => exact .inl (.inl (.inl (.inr (.inl used))))
      | aliased =>
        obtain ⟨d, target, found, stands⟩ | ⟨undeclared, _⟩ := Registry.declaredAs_of_classify used.1
        · obtain ⟨mem, same⟩ := Registry.mem_structs_of_structDecl? found
          exact .inr ⟨d, mem, target, same, stands, .inl used⟩
        · exact .inl (.inl (.inl (.inr (.inr ⟨used, undeclared⟩))))
    · exact .inl (.inl (.inl (.inl (.inl fixed))))

end declared

end CapabilityRegistry.Bindings
