import CapabilityRegistry.Model
import CapabilityRegistry.Proofs.Success

/-!
# What a model is made of

Where each part of a model comes from: `made_of_ofRegistry` opens a model, `ofRegistry_of_parts` makes one.
-/

namespace CapabilityRegistry.Model

/-- Where the parts of a model come from. -/
structure Made (reg : Registry) (rules : Rules) (model : Model) : Prop where
  disabled : model.disabled = DisabledSet.compute reg rules
  closure : DependencyClosure.compute reg model.disabled rules = .ok model.closure
  mappings : Mappings.build reg model.disabled model.closure rules = .ok model.mappings
  registry : model.registry = reg
  rules : model.rules = rules

/-- A model that there is has been made so. -/
theorem made_of_ofRegistry {reg : Registry} {rules : Rules} {model : Model}
    (made : ofRegistry reg rules = .ok model) : Made reg rules model := by
  obtain ⟨closure, closed, done⟩ := bind_eq_ok.1 made
  obtain ⟨mappings, built, done⟩ := bind_eq_ok.1 done
  cases done
  exact ⟨rfl, mapError_eq_ok.1 closed, mapError_eq_ok.1 built, rfl, rfl⟩

/-- A registry whose closure and mappings there are has a model, which is made up of them. -/
lemma ofRegistry_of_parts {reg : Registry} {rules : Rules} {closure : DependencyClosure}
    {mappings : Mappings}
    (closed : DependencyClosure.compute reg (DisabledSet.compute reg rules) rules = .ok closure)
    (built : Mappings.build reg (DisabledSet.compute reg rules) closure rules = .ok mappings) :
    ofRegistry reg rules = .ok ⟨rules, reg, DisabledSet.compute reg rules, closure, mappings⟩ := by
  refine bind_eq_ok.2 ⟨closure, mapError_eq_ok.2 closed, ?_⟩
  exact bind_eq_ok.2 ⟨mappings, mapError_eq_ok.2 built, rfl⟩

end CapabilityRegistry.Model
