import CapabilityRegistry.Proofs.Bindings.Declared
import CapabilityRegistry.Proofs.Bindings.Spelling

/-!
# Types of fields

Which type a field refers to is decided by the class of one name, which types are declared by the lists of
the closure, section by section. `fields_declared` says that the two agree: inside its qualifiers and brackets
the line of every field has a builtin type, or one that the bindings declare.
-/

namespace CapabilityRegistry.Bindings
open Closure (bareMember)

/-! ## What a field refers to -/

/-- The types of the language, and those that the preamble imports. -/
def builtinTypes : List String :=
  ["u8", "u16", "u32", "u64", "i8", "i16", "i32", "i64", "f32", "f64", "usize", "c_char", "c_void"]

/-- A builtin type, or a pointer to one, which strings have for their base type. -/
def Builtin (type : String) : Prop :=
  type ∈ builtinTypes ∨ type ∈ builtinTypes.map ("*const " ++ ·)

/-- The bindings declare a type, in a line of its own. -/
def DeclaresType (b : Bindings) (name : String) : Prop :=
  name ∈ b.declaredNames ∧ ∃ line ∈ b.lines, Declares line name

/-- The declaration of a struct of the closure. -/
def Emitted (model : Model) (d : StructDecl) : Prop :=
  ∃ e ∈ model.closure.order, model.registry.structDecl? e.name = some d

instance {type : String} : Decidable (Builtin type) :=
  inferInstanceAs (Decidable (_ ∨ _))

namespace FieldType

/-- Pointers around a type leave what is inside. -/
@[simp]
lemma baseName_pointers {depth : Nat} {isConst : Bool} {target : FieldType} :
    (pointers depth isConst target).baseName = target.baseName := by
  induction depth using pointers.induct with
  | case1 => rfl
  | case2 => rfl
  | case3 outer ih => exact ih

end FieldType

section types
variable {reg : Registry} {owner typeName base : String} {m : Member} {type : FieldType}

/-- The base type of a known name is the spelling of a scalar, or the declared name itself. -/
lemma baseType?_eq_some (found : baseType? reg typeName = some base) :
    (reg.classify typeName = .scalar ∧ base = scalarType typeName) ∨
      ∃ kind, reg.classify typeName = .declared kind ∧ base = typeName := by
  unfold baseType? at found
  split at found
  next scalar =>
    cases found
    exact .inl ⟨scalar, rfl⟩
  next kind declared =>
    cases found
    exact .inr ⟨kind, declared, rfl⟩
  next => cases found

/-- Inside the type of a member is the base type of its own type name. -/
lemma baseName_of_memberType (done : memberType reg owner m = .ok type) :
    baseType? reg m.typeName = some type.baseName := by
  unfold memberType at done
  split at done
  next => cases done
  next base found =>
    cases done
    rw [found]
    split
    · simp only [FieldType.baseName, FieldType.baseName_pointers]
    · simp only [FieldType.baseName, FieldType.baseName_pointers]

/-- The spelling of a scalar is a builtin type, or the preamble declares it. -/
lemma builtin_scalarType (scalar : reg.classify typeName = .scalar) :
    Builtin (scalarType typeName) ∨ scalarType typeName ∈ preambleAliases.map (·.1) := by
  have each : ∀ name ∈ "void" :: "char" :: knownScalars,
      Builtin (scalarType name) ∨ scalarType name ∈ preambleAliases.map (·.1) := by decide +kernel
  apply each
  unfold Registry.classify at scalar
  split at scalar
  next known => simpa using known
  next =>
    split at scalar
    next => cases scalar
    next => cases scalar

end types

/-! ## What the bindings declare of it -/

section structs
variable {reg : Registry} {rules : Rules} {model : Model} {b : Bindings} {d : StructDecl}
  {s : StructBinding}

/-- The members of a bound struct all have types, and these are the fields. -/
lemma structBinding_eq_ok (done : structBinding reg d = .ok s) :
    s.name = d.name ∧ (∀ m ∈ d.members, ∃ type, memberType reg d.name m = .ok type) ∧
      ∀ field, field ∈ s.fields ↔
        ∃ m ∈ d.members, field.1 = fieldName m.name ∧ memberType reg d.name m = .ok field.2 := by
  obtain ⟨fields, each, built⟩ := bind_eq_ok.1 done
  cases built
  refine ⟨rfl, fun m member => ?_, fun field => ?_⟩
  · obtain ⟨_, bound⟩ := ok_of_mapM each member
    obtain ⟨type, typed, _⟩ := bind_eq_ok.1 bound
    exact ⟨type, typed⟩
  · rw [mem_of_mapM each]
    refine exists_congr fun m => and_congr_right fun _ => ?_
    constructor
    · intro bound
      obtain ⟨type, typed, bound⟩ := bind_eq_ok.1 bound
      cases bound
      exact ⟨rfl, typed⟩
    · intro h
      obtain ⟨named, typed⟩ := h
      exact bind_eq_ok.2 ⟨field.2, typed, congrArg Except.ok (Prod.ext named.symm rfl)⟩

/-- The bound structs are those of the emitted declarations. -/
lemma mem_structs_iff_emitted (bound : Bound model b) :
    s ∈ b.structs ↔ ∃ d, Emitted model d ∧ structBinding model.registry d = .ok s := by
  rw [mem_of_mapM bound.structs]
  simp only [Emitted, List.mem_filterMap]

/-- Every emitted struct is bound. -/
lemma exists_binding (bound : Bound model b) (emitted : Emitted model d) :
    ∃ s ∈ b.structs, structBinding model.registry d = .ok s := by
  obtain ⟨s, done⟩ := ok_of_mapM bound.structs (List.mem_filterMap.2 emitted)
  exact ⟨s, (mem_structs_iff_emitted bound).2 ⟨d, emitted, done⟩, done⟩

/-- An emitted declaration is the one that its name finds, and a reachable struct. -/
lemma Emitted.reachable (made : Model.Made reg rules model) (emitted : Emitted model d) :
    reg.structDecl? d.name = some d ∧ reg.Reachable model.disabled rules d.name := by
  obtain ⟨e, listed, found⟩ := emitted
  rw [made.registry] at found
  rw [(Registry.mem_structs_of_structDecl? found).2]
  exact ⟨found, (Closure.mem_structs_iff made.closure e.name).1 (List.mem_map_of_mem listed)⟩

/-- A declared type name of a member of an emitted struct is one of those that the closure notes. -/
lemma Emitted.uses (made : Model.Made reg rules model) (emitted : Emitted model d) {m : Member}
    (member : m ∈ d.members) {kind : TypeKind} (declared : reg.classify m.typeName = .declared kind) :
    reg.Uses model.disabled rules kind m.typeName := by
  obtain ⟨found, reachable⟩ := emitted.reachable made
  exact ⟨declared, d.name, reachable, d, m, found, member, .refl⟩

/-- Every member of an emitted struct has its field, which the text of the bindings has in the block of the struct.
Inside its qualifiers and brackets there is a builtin type, or one that the bindings declare. -/
theorem fields_declared (made : Model.ofRegistry reg rules = .ok model) (done : ofModel model = .ok b) :
    ∀ d m, Emitted model d → m ∈ d.members →
      ∃ s ∈ b.structs, ∃ field ∈ s.fields, s.name = d.name ∧ field.1 = fieldName m.name ∧
        memberType reg d.name m = .ok field.2 ∧ b.Writes s field ∧
        (Builtin field.2.baseName ∨ DeclaresType b field.2.baseName) := by
  intro d m emitted member
  have made := Model.made_of_ofRegistry made
  have bound := bound_of_ofModel done
  obtain ⟨s, listed, built⟩ := exists_binding bound emitted
  rw [made.registry] at built
  obtain ⟨named, typed, fields⟩ := structBinding_eq_ok built
  obtain ⟨type, typed⟩ := typed m member
  have declares : type.baseName ∈ b.declaredNames → DeclaresType b type.baseName :=
    fun declared => ⟨declared, exists_line_of_declared declared⟩
  have field : (fieldName m.name, type) ∈ s.fields := (fields _).2 ⟨m, member, rfl, typed⟩
  refine ⟨s, listed, _, field, named, rfl, typed, writes_field listed field, ?_⟩
  dsimp only
  obtain ⟨scalar, spelled⟩ | ⟨kind, declared, spelled⟩ :=
    baseType?_eq_some (baseName_of_memberType typed)
  · rw [spelled] at declares ⊢
    refine (builtin_scalarType scalar).imp_right fun fixed => declares ?_
    exact (mem_declaredNames_iff made bound).2 (.inr (.inr (.inr fixed)))
  · rw [spelled] at declares ⊢
    have used := emitted.uses made member declared
    exact .inr (declares ((mem_declaredNames_iff made bound).2 (.inr (.inr (.inl ⟨kind, used⟩)))))

end structs

/-- A device whose members are of every kind: a scalar, a flag type, an alias of an enum, a handle, a base
type, an alias of a struct, and the device itself. -/
def limits : StructDecl where
  name := "VkPhysicalDeviceLimits"
  members := [bareMember "name" "char" 1, bareMember "flags" "VkLimitFlags" 0,
    bareMember "kind" "VkKindKHR" 0, bareMember "queue" "VkQueue" 0,
    bareMember "address" "VkDeviceAddress" 0, bareMember "heap" "VkHeapKHR" 0,
    bareMember "next" "VkPhysicalDeviceLimits" 1]

/-- That device with what its members use. -/
def everyKind : Registry where
  structs := [limits, { name := "VkHeapKHR", aliasOf := some "VkHeap", members := [] },
    { name := "VkHeap", members := [bareMember "size" "VkDeviceSize" 0] }]
  enums := [{ name := "VkKind", kind := "enum", members := [] }]
  handles := ["VkQueue"]
  flagAliases := [("VkLimitFlags", "VkFlags")]
  baseTypes := [("VkDeviceAddress", "uint64_t")]
  typeAliases := [("VkKindKHR", "VkKind"), ("VkHeapKHR", "VkHeap")]

/-- A member of an aliased enum type has its line, and the alias is declared. -/
theorem fields_declared_everyKind :
    ∃ model b, Model.ofRegistry everyKind {} = .ok model ∧ ofModel model = .ok b ∧
      ∃ s ∈ b.structs, s.name = "VkPhysicalDeviceLimits" ∧ ("kind", .base "VkKindKHR") ∈ s.fields ∧
        "    pub kind: VkKindKHR," ∈ b.lines ∧ DeclaresType b "VkKindKHR" := by
  let disabled := DisabledSet.compute everyKind {}
  let closure : DependencyClosure :=
    { order := [⟨"VkHeap", true⟩, ⟨"VkPhysicalDeviceLimits", true⟩]
      enums := ["VkKind"], handles := ["VkQueue"], aliases := ["VkLimitFlags", "VkKindKHR", "VkHeapKHR"]
      baseTypes := ["VkDeviceAddress"] }
  have closed : DependencyClosure.compute everyKind disabled {} = .ok closure := by
    decide +kernel
  obtain ⟨m, built⟩ : ∃ m, Mappings.build everyKind disabled closure {} = .ok m := ⟨_, rfl⟩
  let model : Model := ⟨{}, everyKind, disabled, closure, m⟩
  have made : Model.ofRegistry everyKind {} = .ok model := Model.ofRegistry_of_parts closed built
  obtain ⟨b, done⟩ : ∃ b, ofModel model = .ok b := ⟨_, rfl⟩
  have emitted : Emitted model limits := ⟨_, List.mem_cons_of_mem _ List.mem_cons_self, rfl⟩
  have member : bareMember "kind" "VkKindKHR" 0 ∈ limits.members := by decide
  obtain ⟨s, listed, ⟨name, type⟩, bound, named, same, typed, written, declared⟩ :=
    fields_declared made done limits _ emitted member
  cases typed
  cases same
  have line : "    pub kind: VkKindKHR," ∈ b.lines := written.lines.subset written.line
  exact ⟨model, b, made, done, s, listed, named, bound, line, declared.resolve_left (by decide)⟩

end CapabilityRegistry.Bindings
