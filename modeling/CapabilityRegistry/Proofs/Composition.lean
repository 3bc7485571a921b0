import CapabilityRegistry.Closure
import CapabilityRegistry.Proofs.Walk

/-!
# Composition of structs

Which structs a struct is made of, said without the walk that collects them: `StandsFor` follows a
type name through alias declarations, `HasMember` reads that off the members of a declaration, and
`Composes`, `Contains` and `Reachable` are what is left of it when the member is forgotten.
`memberStruct?_eq_some_iff` ties them to the trail that the walk takes.
-/

namespace CapabilityRegistry.Registry
open Relation

variable (reg : Registry)

/-- A type name is that of a struct, or alias declarations lead from it to one. -/
def StandsFor (typeName struct : String) : Prop :=
  reg.isStruct struct = true ∧ Walk.Hops reg.aliasStep? typeName struct

/-- The type of a member of `owner` stands for `struct`. -/
def HasMember (owner : String) (m : Member) (struct : String) : Prop :=
  ∃ d, reg.structDecl? owner = some d ∧ m ∈ d.members ∧ reg.StandsFor m.typeName struct

/-- A member of `owner`, by value or by pointer, has `struct` as its type. -/
def Composes (owner struct : String) : Prop :=
  ∃ m, reg.HasMember owner m struct

/-- A member of `owner` by value has `struct` as its type. -/
def Contains (owner struct : String) : Prop :=
  ∃ m, reg.HasMember owner m struct ∧ m.isPointer = false

/-- A declared struct from which the closure starts leads to `struct` along member types. -/
def Reachable (disabled : DisabledSet) (rules : Rules) (struct : String) : Prop :=
  ∃ root ∈ Closure.roots reg disabled rules,
    (reg.structDecl? root).isSome = true ∧ ReflTransGen reg.Composes root struct

/-- Member types lead from one struct to another without meeting the avoided ones. -/
def ReachesOff (avoided : List String) (a b : String) : Prop :=
  a ∉ avoided ∧ ReflTransGen (fun x y => reg.Composes x y ∧ y ∉ avoided) a b

variable {reg}

/-- A way that avoids some structs does not end at one of them. -/
lemma ReachesOff.not_mem {avoided : List String} {a b : String} (h : reg.ReachesOff avoided a b) :
    b ∉ avoided := by
  obtain ⟨off, steps⟩ := h
  cases steps with
  | refl => exact off
  | tail _ step => exact step.2

/-- A way goes on by one step to a struct that is not avoided. -/
lemma ReachesOff.tail {avoided : List String} {a b c : String} (h : reg.ReachesOff avoided a b)
    (step : reg.Composes b c) (off : c ∉ avoided) : reg.ReachesOff avoided a c :=
  ⟨h.1, h.2.tail ⟨step, off⟩⟩

/-- A way that avoids some structs avoids fewer as well. -/
lemma ReachesOff.mono {avoided fewer : List String} {a b : String} (sub : fewer ⊆ avoided)
    (h : reg.ReachesOff avoided a b) : reg.ReachesOff fewer a b :=
  ⟨fun mem => h.1 (sub mem),
    ReflTransGen.mono (fun _ _ step => ⟨step.1, fun mem => step.2 (sub mem)⟩) _ _ h.2⟩

/-- With nothing to avoid every way will do. -/
lemma reachesOff_nil {a b : String} : reg.ReachesOff [] a b ↔ ReflTransGen reg.Composes a b := by
  simp [ReachesOff]

/-- A struct is reached from `a` when it is `a` itself or reached from a member type of `a` without
coming back to `a`. -/
lemma reachesOff_iff_enter {avoided : List String} {a b : String} (off : a ∉ avoided) :
    reg.ReachesOff avoided a b ↔
      b = a ∨ ∃ c, reg.Composes a c ∧ reg.ReachesOff (a :: avoided) c b := by
  constructor
  · intro h
    obtain ⟨_, steps⟩ := h
    induction steps with
    | refl => exact .inl rfl
    | @tail b c _ step ih =>
      by_cases back : c = a
      · exact .inl back
      have off' : c ∉ a :: avoided := by simp [back, step.2]
      obtain rfl | ⟨d, first, rest⟩ := ih
      · exact .inr ⟨c, step.1, off', .refl⟩
      · exact .inr ⟨d, first, rest.tail step.1 off'⟩
  · intro h
    rcases h with rfl | ⟨c, first, rest⟩
    · exact ⟨off, .refl⟩
    · have rest' := rest.mono (List.subset_cons_self a avoided)
      exact ⟨off, .head ⟨first, rest'.1⟩ rest'.2⟩

/-- Struct declarations that are no aliases end every alias chain. -/
lemma aliasStep?_of_isStruct {name : String} (h : reg.isStruct name = true) :
    reg.aliasStep? name = none := by
  have kind : reg.classify name = .declared .struct := by simpa [isStruct] using h
  simp [aliasStep?, kind]

/-- A name that counts as a struct has a declaration. -/
lemma structDecl?_of_isStruct {name : String} (h : reg.isStruct name = true) :
    ∃ d, reg.structDecl? name = some d := by
  have kind : reg.classify name = .declared .struct := by simpa [isStruct] using h
  cases found : reg.structDecl? name with
  | some d => exact ⟨d, rfl⟩
  | none =>
    simp only [classify, kindOf?, found] at kind
    grind

/-- What a reachable struct is made of is reachable. -/
lemma Reachable.tail {disabled : DisabledSet} {rules : Rules} {owner struct : String}
    (reachable : reg.Reachable disabled rules owner) (composes : reg.Composes owner struct) :
    reg.Reachable disabled rules struct := by
  obtain ⟨root, mem, declared, steps⟩ := reachable
  exact ⟨root, mem, declared, steps.tail composes⟩

/-- What is reachable is declared. -/
lemma Reachable.exists_structDecl? {disabled : DisabledSet} {rules : Rules} {struct : String}
    (reachable : reg.Reachable disabled rules struct) : ∃ d, reg.structDecl? struct = some d := by
  obtain ⟨root, _, declared, steps⟩ := reachable
  cases steps with
  | refl => exact Option.isSome_iff_exists.1 declared
  | tail _ step =>
    obtain ⟨_, _, _, _, kind, _⟩ := step
    exact structDecl?_of_isStruct kind

/-- The struct that the type of a member stands for, as the walk finds it. -/
def memberStruct? (reg : Registry) (m : Member) : Option String :=
  (reg.typeTrail m.typeName).getLast?.filter reg.isStruct

/-- The struct of a member is the one that its type name stands for. -/
lemma memberStruct?_eq_some_iff {m : Member} {struct : String} :
    reg.memberStruct? m = some struct ↔ reg.StandsFor m.typeName struct := by
  rw [memberStruct?, Option.filter_eq_some_iff, StandsFor, and_comm]
  refine and_congr_right fun h => ?_
  exact Walk.getLast?_trail (aliasStep?_of_isStruct h)

/-- The struct of a member has a declaration. -/
lemma structDecl?_of_memberStruct? {m : Member} {struct : String}
    (h : reg.memberStruct? m = some struct) : ∃ d, reg.structDecl? struct = some d :=
  structDecl?_of_isStruct (memberStruct?_eq_some_iff.1 h).1

end CapabilityRegistry.Registry
