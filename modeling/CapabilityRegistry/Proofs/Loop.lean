import Mathlib.Data.PFun
import Mathlib.Logic.Relation
import Mathlib.Tactic.Lemma

/-!
# Loops

A loop takes turns until one of them returns. Nothing bounds the turns, so that a loop has a result only where it
finishes. A turn that goes on leaves the result as it is (`loop_of_turn`), and so do several (`loop_of_turns`). Where
every turn goes on there is no result (`not_dom_loop`).
-/

namespace CapabilityRegistry
open Relation

variable {σ β : Type} {turn : σ → β ⊕ σ} {s s' : σ} {b : β}

/-- What a loop returns that starts in a state. Each turn returns, or goes on in another state. -/
def loop (turn : σ → β ⊕ σ) : σ →. β :=
  PFun.fix (PFun.lift turn)

/-- Turns that go on lead from one state to another. -/
abbrev Turns (turn : σ → β ⊕ σ) : σ → σ → Prop :=
  ReflTransGen fun s s' => turn s = .inr s'

/-- A loop whose next turn returns has that value. -/
lemma loop_of_return (returns : turn s = .inl b) : loop turn s = Part.some b := by
  apply Part.eq_some_iff.2
  apply PFun.fix_stop
  rw [PFun.coe_val, returns]
  exact Part.mem_some _

/-- A turn that goes on takes nothing from the loop. -/
lemma loop_of_turn (goes : turn s = .inr s') : loop turn s = loop turn s' := by
  apply PFun.fix_fwd_eq
  rw [PFun.coe_val, goes]
  exact Part.mem_some _

/-- Turns that go on take nothing from the loop, however many they are. -/
lemma loop_of_turns (go : Turns turn s s') : loop turn s = loop turn s' := by
  induction go with
  | refl => rfl
  | tail _ goes ih => exact ih.trans (loop_of_turn goes)

/-- A loop that can always go on does not finish. -/
lemma not_dom_loop {p : σ → Prop} (goes : ∀ s, p s → ∃ s', turn s = .inr s' ∧ p s') (holds : p s) :
    ¬ (loop turn s).Dom := by
  intro finishes
  suffices none : ¬ p s from none holds
  refine PFun.fixInduction (C := fun s => ¬ p s) (Part.get_mem finishes) fun s _ ih holds => ?_
  obtain ⟨s', goes', holds'⟩ := goes s holds
  refine ih s' ?_ holds'
  rw [PFun.coe_val, goes']
  exact Part.mem_some _

end CapabilityRegistry
