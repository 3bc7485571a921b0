import CapabilityRegistry.Proofs.Bindings.Fields

/-!
# Unknown types

Bindings fail at a member whose own type name is undeclared, and nowhere else. A member whose type is an
alias passes, wherever the declarations behind the alias lead; what they lead to is written on the right-hand
side of the alias, declared or not. `unknownType_iff` says both.
-/

namespace CapabilityRegistry

/-! ## Ends of alias declarations -/

namespace Registry

/-- A scalar, or a name that is declared as something other than an alias. -/
def Known (reg : Registry) (name : String) : Prop :=
  reg.classify name = .scalar ∨ (∃ d, reg.structDecl? name = some d ∧ d.aliasOf = none) ∨
    (reg.enumDecl? name).isSome = true ∨ reg.isHandle name = true ∨
    (reg.flagAlias? name).isSome = true ∨ (reg.baseType? name).isSome = true

/-- Alias declarations lead from a name to an end that is not known. A name that stands for itself is an
end. -/
def Dangles (reg : Registry) (name : String) : Prop :=
  ∃ last, Walk.Hops reg.aliasStep? name last ∧
    (reg.aliasStep? last = none ∨ reg.aliasStep? last = some last) ∧ ¬ reg.Known last

variable {reg : Registry} {name target : String}

/-- What is unknown is declared nowhere. -/
lemma undeclared_of_classify (unknown : reg.classify name = .unknown) :
    reg.structDecl? name = none ∧ ¬ reg.Known name := by
  unfold classify at unknown
  split at unknown
  next => cases unknown
  next plain =>
    have undeclared : reg.kindOf? name = none := by
      cases declared : reg.kindOf? name with
      | none => rfl
      | some kind =>
        rw [declared] at unknown
        cases unknown
    unfold kindOf? at undeclared
    split at undeclared
    next => cases undeclared
    next found =>
      refine ⟨found, ?_⟩
      simp only [Known, classify, if_neg plain, kindOf?, found]
      grind

/-- A name is unknown when it dangles without being an alias. -/
lemma classify_eq_unknown_iff :
    reg.classify name = .unknown ↔ reg.Dangles name ∧ reg.aliasStep? name = none := by
  constructor
  · intro unknown
    have stop : reg.aliasStep? name = none := by rw [aliasStep?, unknown]; rfl
    exact ⟨⟨name, .refl, .inl stop, (undeclared_of_classify unknown).2⟩, stop⟩
  · intro h
    obtain ⟨⟨last, hops, _, unknown⟩, stop⟩ := h
    cases hops.eq_of_end stop
    cases classified : reg.classify name with
    | unknown => rfl
    | scalar => exact (unknown (.inl classified)).elim
    | declared kind =>
      refine (unknown ?_).elim
      have declared := declaredAs_of_classify classified
      cases kind with
      | struct => exact .inr (.inl declared)
      | enum => exact .inr (.inr (.inl declared.2))
      | handle => exact .inr (.inr (.inr (.inl declared.2)))
      | primitive => exact .inr (.inr (.inr (.inr (.inr declared.2))))
      | aliased =>
        -- an alias without a next name is a flag type
        rw [aliasStep?, if_pos classified] at stop
        obtain ⟨d, target, found, stands⟩ | ⟨found, flags | aliased⟩ := declared
        · simp [found, stands] at stop
        · exact .inr (.inr (.inr (.inr (.inl flags))))
        · simp [found, Option.isSome_iff_ne_none.1 aliased] at stop

/-- What an alias stands for is met by the members that meet the alias. -/
lemma Uses.step {disabled : DisabledSet} {rules : Rules} {kind : TypeKind}
    (used : reg.Uses disabled rules .aliased name) (step : reg.aliasStep? name = some target)
    (declared : reg.classify target = .declared kind) : reg.Uses disabled rules kind target := by
  obtain ⟨_, owner, reachable, d, m, found, member, hops⟩ := used
  exact ⟨declared, owner, reachable, d, m, found, member, hops.tail step⟩

end Registry

/-! ## Where bindings fail -/

namespace Bindings
open Closure (bareMember)

variable {reg : Registry} {rules : Rules} {model : Model} {b : Bindings} {name target : String}

/-- Only the own type name of a member decides whether it has a type. -/
lemma memberType_eq_error {owner : String} {m : Member} {error : RegistryError} :
    memberType reg owner m = .error error ↔
      reg.classify m.typeName = .unknown ∧ error = .unknownType m.typeName m.cType owner := by
  unfold memberType baseType?
  cases reg.classify m.typeName with
  | scalar => exact ⟨nofun, nofun⟩
  | declared kind => exact ⟨nofun, nofun⟩
  | unknown =>
    constructor
    · intro failed
      cases failed
      exact ⟨rfl, rfl⟩
    · intro h
      obtain ⟨_, rfl⟩ := h
      rfl

/-- Bindings fail with the unknown type of a member of an emitted struct. -/
lemma unknown_of_ofModel {error : RegistryError} (failed : ofModel model = .error error) :
    ∃ d m, Emitted model d ∧ m ∈ d.members ∧ model.registry.classify m.typeName = .unknown ∧
      error = .unknownType m.typeName m.cType d.name := by
  obtain failed | ⟨_, _, ⟨⟩⟩ := bind_eq_error.1 failed
  obtain ⟨d, listed, failed⟩ := error_of_mapM failed
  obtain failed | ⟨_, _, ⟨⟩⟩ := bind_eq_error.1 failed
  obtain ⟨m, member, failed⟩ := error_of_mapM failed
  obtain failed | ⟨_, _, ⟨⟩⟩ := bind_eq_error.1 failed
  obtain ⟨unknown, rfl⟩ := memberType_eq_error.1 failed
  exact ⟨d, m, List.mem_filterMap.1 listed, member, unknown, rfl⟩

/-- Where there are bindings, all type names of members are known. -/
lemma known_of_ofModel (done : ofModel model = .ok b) {d : StructDecl} {m : Member}
    (emitted : Emitted model d) (member : m ∈ d.members) :
    model.registry.classify m.typeName ≠ .unknown := by
  intro unknown
  obtain ⟨s, _, built⟩ := exists_binding (bound_of_ofModel done) emitted
  obtain ⟨type, typed⟩ := (structBinding_eq_ok built).2.1 m member
  rw [memberType_eq_error.2 ⟨unknown, rfl⟩] at typed
  cases typed

/-- An alias that members meet, and that is no flag type, is bound to what it stands for. -/
lemma mem_aliases_of_uses (made : Model.Made reg rules model) (bound : Bound model b)
    (used : reg.Uses model.disabled rules .aliased name) (step : reg.aliasStep? name = some target)
    (flagless : reg.flagAlias? name = none) : (name, target) ∈ b.typeAliases ++ b.structAliases := by
  have listed : name ∈ model.closure.aliases := ((Closure.compute_exact made.closure).aliases.mem name).2 used
  rw [Registry.aliasStep?, if_pos used.1] at step
  apply List.mem_append.2
  obtain ⟨d, target', found, stands⟩ | ⟨found, _⟩ := Registry.declaredAs_of_classify used.1
  · right
    obtain ⟨declared, rfl⟩ := Registry.mem_structs_of_structDecl? found
    have same : target' = target := by simpa [found, stands] using step
    rw [bound.structAliases, made.registry]
    apply List.mem_filterMap.2
    exact ⟨d, declared, structAlias?_eq_some_iff.2
      ⟨target', stands, .inl (List.contains_iff_mem.2 listed), by rw [same]⟩⟩
  · left
    rw [bound.typeAliases, made.registry]
    apply List.mem_append_left
    apply List.mem_filterMap.2
    refine ⟨name, listed, ?_⟩
    have known : reg.aliasTarget? name = some target := by simpa [found] using step
    simp [aliasBinding?, found, flagless, known]

/-- What an alias stands for is declared with the alias, if anything declares it. -/
lemma target_declared_iff (made : Model.Made reg rules model) (bound : Bound model b)
    (used : reg.Uses model.disabled rules .aliased name) (step : reg.aliasStep? name = some target)
    (plain : reg.classify target = .scalar → reg.structDecl? target = none) :
    target ∈ b.declaredNames ↔
      (∃ kind, reg.classify target = .declared kind) ∨ target ∈ preambleAliases.map (·.1) := by
  rw [mem_declaredNames_iff made bound]
  have undeclared : ¬ (∃ kind, reg.classify target = .declared kind) → reg.structDecl? target = none := by
    intro none
    cases classified : reg.classify target with
    | scalar => exact plain classified
    | unknown => exact (Registry.undeclared_of_classify classified).1
    | declared kind => exact (none ⟨kind, classified⟩).elim
  constructor
  · intro h
    by_cases kinded : ∃ kind, reg.classify target = .declared kind
    · exact .inl kinded
    have none := undeclared kinded
    obtain reachable | ⟨_, d, declared, _, rfl, _⟩ | ⟨kind, used⟩ | fixed := h
    · obtain ⟨d, found⟩ := reachable.exists_structDecl?
      cases none.symm.trans found
    · have absent := List.find?_eq_none.1 none d declared
      simp at absent
    · exact .inl ⟨kind, used.1⟩
    · exact .inr fixed
  · intro h
    obtain ⟨kind, declared⟩ | fixed := h
    · exact .inr (.inr (.inl ⟨kind, used.step step declared⟩))
    · exact .inr (.inr (.inr fixed))

/-- Bindings fail exactly where the type name of a member of an emitted struct dangles without being an
alias. In bindings that there are, what an alias of a member stands for is on the right-hand side of its
line, and it is declared exactly when it is declared in the registry, or by the preamble. -/
theorem unknownType_iff (made : Model.ofRegistry reg rules = .ok model) :
    (∀ error, ofModel model = .error error → ∃ d m, Emitted model d ∧ m ∈ d.members ∧
      reg.Dangles m.typeName ∧ reg.aliasStep? m.typeName = none ∧
      error = .unknownType m.typeName m.cType d.name) ∧
    ((∃ d m, Emitted model d ∧ m ∈ d.members ∧ reg.Dangles m.typeName ∧
      reg.aliasStep? m.typeName = none) → ∃ error, ofModel model = .error error) ∧
    ∀ b, ofModel model = .ok b → ∀ name target, reg.Uses model.disabled rules .aliased name →
      reg.aliasStep? name = some target → reg.flagAlias? name = none →
      (name, target) ∈ b.typeAliases ++ b.structAliases ∧
        ((reg.classify target = .scalar → reg.structDecl? target = none) →
          (target ∈ b.declaredNames ↔
            (∃ kind, reg.classify target = .declared kind) ∨ target ∈ preambleAliases.map (·.1))) := by
  have made := Model.made_of_ofRegistry made
  refine ⟨fun error failed => ?_, fun h => ?_, fun b done name target used step flagless => ?_⟩
  · obtain ⟨d, m, emitted, member, unknown, rfl⟩ := unknown_of_ofModel failed
    rw [made.registry] at unknown
    obtain ⟨dangles, stop⟩ := Registry.classify_eq_unknown_iff.1 unknown
    exact ⟨d, m, emitted, member, dangles, stop, rfl⟩
  · obtain ⟨d, m, emitted, member, dangles⟩ := h
    have unknown := Registry.classify_eq_unknown_iff.2 dangles
    cases result : ofModel model with
    | error error => exact ⟨error, rfl⟩
    | ok b =>
      rw [← made.registry] at unknown
      exact (known_of_ofModel result emitted member unknown).elim
  · have bound := bound_of_ofModel done
    exact ⟨mem_aliases_of_uses made bound used step flagless, target_declared_iff made bound used step⟩

/-- A device with an order of a type; of the types of orders only an alias is declared. -/
def ordered (typeName : String) : Registry where
  structs := [{ name := "VkPhysicalDeviceShaderProperties", members := [bareMember "order" typeName 0] }]
  typeAliases := [("VkOrderKHR", "VkOrder")]

/-- A type name that nothing declares, behind no alias, makes the bindings fail. -/
theorem unknownType_iff_ordered :
    ∃ model error, Model.ofRegistry (ordered "VkOrder") {} = .ok model ∧ ofModel model = .error error ∧
      ∃ d m, Emitted model d ∧ m ∈ d.members ∧ (ordered "VkOrder").Dangles m.typeName ∧
        error = .unknownType m.typeName m.cType d.name := by
  let reg := ordered "VkOrder"
  let disabled := DisabledSet.compute reg {}
  let closure : DependencyClosure := { order := [⟨"VkPhysicalDeviceShaderProperties", false⟩] }
  have closed : DependencyClosure.compute reg disabled {} = .ok closure := by decide +kernel
  obtain ⟨m, built⟩ : ∃ m, Mappings.build reg disabled closure {} = .ok m := ⟨_, rfl⟩
  let model : Model := ⟨{}, reg, disabled, closure, m⟩
  have made : Model.ofRegistry reg {} = .ok model := Model.ofRegistry_of_parts closed built
  have unknown : reg.classify "VkOrder" = .unknown := rfl
  obtain ⟨dangles, stop⟩ := Registry.classify_eq_unknown_iff.1 unknown
  obtain ⟨only, fails, _⟩ := unknownType_iff made
  obtain ⟨error, failed⟩ := fails
    ⟨_, bareMember "order" "VkOrder" 0, ⟨_, List.mem_cons_self, rfl⟩, List.mem_cons_self, dangles, stop⟩
  obtain ⟨d, m, emitted, member, dangles, _, message⟩ := only error failed
  exact ⟨model, error, made, failed, d, m, emitted, member, dangles, message⟩

/-- With a member of the alias, bindings are there: the alias dangles, and what it stands for is on its
right-hand side, declared nowhere. -/
theorem dangling_bound_ordered :
    ∃ model b, Model.ofRegistry (ordered "VkOrderKHR") {} = .ok model ∧ ofModel model = .ok b ∧
      (∃ d m, Emitted model d ∧ m ∈ d.members ∧ (ordered "VkOrderKHR").Dangles m.typeName) ∧
      ("VkOrderKHR", "VkOrder") ∈ b.typeAliases ∧ "VkOrder" ∉ b.declaredNames := by
  let reg := ordered "VkOrderKHR"
  let disabled := DisabledSet.compute reg {}
  let closure : DependencyClosure :=
    { order := [⟨"VkPhysicalDeviceShaderProperties", false⟩], aliases := ["VkOrderKHR"] }
  have closed : DependencyClosure.compute reg disabled {} = .ok closure := by decide +kernel
  obtain ⟨m, built⟩ : ∃ m, Mappings.build reg disabled closure {} = .ok m := ⟨_, rfl⟩
  let model : Model := ⟨{}, reg, disabled, closure, m⟩
  obtain ⟨b, done⟩ : ∃ b, ofModel model = .ok b := ⟨_, rfl⟩
  have made : Model.Made reg {} model := Model.made_of_ofRegistry (Model.ofRegistry_of_parts closed built)
  have bound := bound_of_ofModel done
  have unknown : reg.classify "VkOrder" = .unknown := rfl
  have step : reg.aliasStep? "VkOrderKHR" = some "VkOrder" := rfl
  obtain ⟨_, undeclared⟩ := Registry.undeclared_of_classify unknown
  have dangles : reg.Dangles "VkOrderKHR" := ⟨"VkOrder", .tail .refl step, .inl rfl, undeclared⟩
  have emitted : Emitted model _ := ⟨_, List.mem_cons_self, rfl⟩
  have member : bareMember "order" "VkOrderKHR" 0 ∈ [bareMember "order" "VkOrderKHR" 0] :=
    List.mem_cons_self
  have used := emitted.uses made member (show reg.classify "VkOrderKHR" = .declared .aliased from rfl)
  have listed : ("VkOrderKHR", "VkOrder") ∈ b.typeAliases := by
    rw [bound.typeAliases]
    exact List.mem_cons_self
  refine ⟨model, b, Model.ofRegistry_of_parts closed built, done, ?_, listed, ?_⟩
  · exact ⟨_, _, emitted, member, dangles⟩
  rw [target_declared_iff made bound used step fun _ => rfl]
  rintro (⟨_, ⟨⟩⟩ | fixed)
  exact absurd fixed (by decide)

end Bindings

end CapabilityRegistry
