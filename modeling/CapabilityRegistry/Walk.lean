/-!
# Walks along a partial function

From a name one steps to the next one as long as there is one. Only finitely many names have a next
one, so a walk either stops or comes back to a name that it has met. The trail of a walk is the list
of names met, each once.
-/

namespace CapabilityRegistry.Walk

/-- How many entries of `domain` have not been seen. -/
def remaining (domain seen : List String) : Nat :=
  domain.countP fun name => !seen.contains name

/-- With one more name seen no more names remain. -/
theorem remaining_cons_le (domain seen : List String) (name : String) :
    remaining domain (name :: seen) ≤ remaining domain seen := by
  refine List.countP_mono_left fun x _ h => ?_
  simp_all

/-- With a new name of the domain seen fewer names remain. -/
theorem remaining_cons_lt {domain seen : List String} {name : String} (mem : name ∈ domain)
    (new : name ∉ seen) : remaining domain (name :: seen) < remaining domain seen := by
  induction domain with
  | nil => cases mem
  | cons x xs ih =>
    have le := remaining_cons_le xs seen name
    unfold remaining at ih le ⊢
    simp only [List.countP_cons]
    by_cases hx : x = name
    · subst hx
      simp [new] at le ⊢
      omega
    · have lt := ih (by simpa [Ne.symm hx] using mem)
      by_cases hs : x ∈ seen <;> simp [hs, hx] at lt ⊢ <;> omega

/-- Where a walk has been. -/
structure Trail where
  /-- The names met, in order. -/
  names : List String
  /-- The walk came back to a name already met. -/
  returns : Bool

/-- The trail of the walk from `name` along `next`, given what was `seen` before. -/
def trail (next : String → Option String) (domain : List String)
    (bounded : ∀ x y, next x = some y → x ∈ domain) (seen : List String) (name : String) : Trail :=
  if new : name ∈ seen then ⟨[], true⟩
  else
    match step : next name with
    | none => ⟨[name], false⟩
    | some following =>
      have _fewer := remaining_cons_lt (bounded _ _ step) new
      let rest := trail next domain bounded (name :: seen) following
      ⟨name :: rest.names, rest.returns⟩
termination_by remaining domain seen

end CapabilityRegistry.Walk
