import CapabilityRegistry.Registry
import Mathlib.Data.List.Nodup
import Mathlib.Tactic.Lemma

/-!
# Declared structs

Which declaration a struct name finds: the first one of that name, and where no name is declared twice
any one (`structDecl?_eq_some_iff`), so that the order of the declarations does not count.
-/

namespace CapabilityRegistry.Registry
variable {reg : Registry} {name : String} {d : StructDecl}

/-- The registry with other struct declarations. -/
def withStructs (reg : Registry) (structs : List StructDecl) : Registry :=
  { reg with structs }

/-- What a name finds is declared, and under that name. -/
lemma mem_structs_of_structDecl? (found : reg.structDecl? name = some d) :
    d ∈ reg.structs ∧ d.name = name :=
  ⟨List.mem_of_find?_eq_some found, by simpa using List.find?_some found⟩

/-- Where no name is declared twice, a name finds the declaration that has it. -/
lemma structDecl?_eq_some_iff (distinct : reg.structNames.Nodup) :
    reg.structDecl? name = some d ↔ d ∈ reg.structs ∧ d.name = name := by
  refine ⟨mem_structs_of_structDecl?, fun h => ?_⟩
  obtain ⟨mem, rfl⟩ := h
  cases found : reg.structDecl? d.name with
  | none =>
    have absent := List.find?_eq_none.1 found d mem
    simp at absent
  | some d' =>
    obtain ⟨mem', same⟩ := mem_structs_of_structDecl? found
    rw [List.inj_on_of_nodup_map distinct mem' mem same]

/-- What must be declared for a name to be of a kind. -/
def DeclaredAs (reg : Registry) (name : String) : TypeKind → Prop
  | .struct => ∃ d, reg.structDecl? name = some d ∧ d.aliasOf = none
  | .aliased => (∃ d target, reg.structDecl? name = some d ∧ d.aliasOf = some target) ∨
      (reg.structDecl? name = none ∧ ((reg.flagAlias? name).isSome ∨ (reg.aliasTarget? name).isSome))
  | .enum => reg.structDecl? name = none ∧ (reg.enumDecl? name).isSome
  | .handle => reg.structDecl? name = none ∧ reg.isHandle name
  | .primitive => reg.structDecl? name = none ∧ (reg.baseType? name).isSome

/-- A name of a kind is declared as such. -/
lemma declaredAs_of_classify {kind : TypeKind} (classified : reg.classify name = .declared kind) :
    reg.DeclaredAs name kind := by
  have known : reg.kindOf? name = some kind := by
    unfold classify at classified
    split at classified
    next => cases classified
    next =>
      split at classified
      next kind' known =>
        cases classified
        exact known
      next => cases classified
  unfold kindOf? at known
  split at known
  next d found =>
    cases stands : d.aliasOf with
    | none =>
      rw [stands] at known
      cases known
      exact ⟨d, found, stands⟩
    | some target =>
      rw [stands] at known
      cases known
      exact .inl ⟨d, target, found, stands⟩
  next undeclared =>
    split at known
    next enum =>
      cases known
      exact ⟨undeclared, enum⟩
    next =>
      split at known
      next handle =>
        cases known
        exact ⟨undeclared, handle⟩
      next =>
        split at known
        next aliased =>
          cases known
          exact .inr ⟨undeclared, by simpa using aliased⟩
        next =>
          split at known
          next base =>
            cases known
            exact ⟨undeclared, base⟩
          next => cases known

/-- A declared struct that is no alias, with names of which each stands for the next one and the last one
is its own. -/
inductive AliasChain (reg : Registry) : List String → StructDecl → Prop where
  | last {name : String} {d : StructDecl} :
      reg.structDecl? name = some d → d.aliasOf = none → AliasChain reg [name] d
  | cons {name target : String} {names : List String} {d last : StructDecl} :
      reg.structDecl? name = some d → d.aliasOf = some target →
      AliasChain reg (target :: names) last → AliasChain reg (name :: target :: names) last

namespace AliasChain
variable {names names' : List String} {last last' : StructDecl}

/-- A chain ends at a declaration of its own, or goes on with the name that the declaration stands for. -/
lemma inv (chain : AliasChain reg (name :: names) last) :
    ∃ d, reg.structDecl? name = some d ∧
      ((d.aliasOf = none ∧ names = [] ∧ last = d) ∨
        ∃ target rest, d.aliasOf = some target ∧ names = target :: rest ∧
          AliasChain reg (target :: rest) last) := by
  cases chain with
  | last found own => exact ⟨last, found, .inl ⟨own, rfl, rfl⟩⟩
  | @cons _ target rest d _ found stands tail =>
    exact ⟨d, found, .inr ⟨target, rest, stands, rfl, tail⟩⟩

/-- A name has one chain at most. -/
lemma unique (chain : AliasChain reg (name :: names) last)
    (chain' : AliasChain reg (name :: names') last') : names = names' := by
  induction names generalizing name names' with
  | nil =>
    obtain ⟨d, found, ⟨own, _⟩ | ⟨_, _, _, ⟨⟩, _⟩⟩ := chain.inv
    obtain ⟨d', found', ⟨_, rfl, _⟩ | ⟨target, _, stands, _⟩⟩ := chain'.inv
    · rfl
    · cases found.symm.trans found'
      cases own.symm.trans stands
  | cons next names ih =>
    obtain ⟨d, found, ⟨_, ⟨⟩, _⟩ | ⟨target, rest, stands, ⟨⟩, tail⟩⟩ := chain.inv
    obtain ⟨d', found', ⟨own, _⟩ | ⟨target', rest', stands', rfl, tail'⟩⟩ := chain'.inv
    · cases found.symm.trans found'
      cases own.symm.trans stands
    · cases found.symm.trans found'
      cases stands.symm.trans stands'
      rw [ih tail tail']

/-- The struct at the end of a chain is the one that its name finds. -/
lemma structDecl?_last (chain : AliasChain reg names last) :
    reg.structDecl? last.name = some last ∧ last.aliasOf = none := by
  induction chain with
  | last found own =>
    obtain ⟨_, rfl⟩ := mem_structs_of_structDecl? found
    exact ⟨found, own⟩
  | cons _ _ _ ih => exact ih

/-- What an alias on a chain stands for is on the chain. -/
lemma mem_target {target : String} (chain : AliasChain reg names last) (mem : name ∈ names)
    (found : reg.structDecl? name = some d) (stands : d.aliasOf = some target) : target ∈ names := by
  induction chain with
  | last found' own =>
    cases List.mem_singleton.1 mem
    cases found.symm.trans found'
    cases stands.symm.trans own
  | cons found' stands' _ ih =>
    cases mem with
    | head =>
      cases found.symm.trans found'
      cases stands.symm.trans stands'
      exact List.mem_cons_of_mem _ List.mem_cons_self
    | tail _ mem => exact List.mem_cons_of_mem _ (ih mem)

end AliasChain

/-- Another order of the struct declarations, in which the same declaration of each name comes first. -/
structure Rearranges (reg : Registry) (structs : List StructDecl) : Prop where
  perm : structs.Perm reg.structs
  first : ∀ name, (reg.withStructs structs).structDecl? name = reg.structDecl? name

/-- Where no name is declared twice, every order of the declarations will do. -/
lemma rearranges_of_perm (distinct : reg.structNames.Nodup) {structs : List StructDecl}
    (perm : structs.Perm reg.structs) : Rearranges reg structs where
  perm := perm
  first name := by
    have distinct' : (reg.withStructs structs).structNames.Nodup :=
      (perm.map StructDecl.name).nodup_iff.2 distinct
    apply Option.ext
    intro d
    rw [structDecl?_eq_some_iff distinct, structDecl?_eq_some_iff distinct']
    exact and_congr_left' perm.mem_iff

namespace Rearranges
variable {structs : List StructDecl} (rearranges : Rearranges reg structs)

include rearranges

/-- Rearranged structs do not change what names are classified as. -/
lemma classify : (reg.withStructs structs).classify name = reg.classify name := by
  unfold Registry.classify kindOf?
  rw [rearranges.first]
  rfl

end Rearranges

end CapabilityRegistry.Registry
