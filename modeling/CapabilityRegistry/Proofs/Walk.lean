import CapabilityRegistry.Walk
import Mathlib.Logic.Relation
import Mathlib.Tactic.Lemma

/-!
# Walks and their ends

A walk along a partial function either ends at a name without a next one or comes back to a name on
it, never both. `getLast?_trail` says that the trail of a walk stops at such an end exactly when single
steps lead there, `returns_trail_eq_false_iff` that it stops at all exactly when they lead to an end,
`mem_trail_iff` that the trail meets all that they lead to. A walk is `Straight` where no cycle of several names is
ahead.
-/

namespace CapabilityRegistry.Walk
open Relation

variable {next : String → Option String} {domain : List String}
  {bounded : ∀ x y, next x = some y → x ∈ domain}

/-- One step of a walk. -/
def Hop (next : String → Option String) (a b : String) : Prop :=
  next a = some b

/-- Any number of steps of a walk. -/
abbrev Hops (next : String → Option String) : String → String → Prop :=
  ReflTransGen (Hop next)

/-- A name hops to one name at most. -/
lemma hop_rightUnique : Relator.RightUnique (Hop next) :=
  fun _ _ _ hop hop' => Option.some.inj (hop.symm.trans hop')

/-- A name without a next one leads to itself only. -/
lemma Hops.eq_of_end {a b : String} (stop : next a = none) (hops : Hops next a b) : a = b := by
  cases hops.cases_head with
  | inl e => exact e
  | inr h =>
    obtain ⟨c, hop, _⟩ := h
    rw [Hop, stop] at hop
    cases hop

/-- A name that steps to itself leads nowhere else. -/
lemma Hops.eq_of_self {a b : String} (self : next a = some a) (hops : Hops next a b) : a = b := by
  induction hops with
  | refl => rfl
  | tail _ hop ih =>
    subst ih
    exact Option.some.inj (self.symm.trans hop)

/-- A name on a cycle leads to no end. -/
lemma not_end_of_cycle {a b : String} (cycle : TransGen (Hop next) a a) (hops : Hops next a b) :
    next b ≠ none := by
  induction hops using ReflTransGen.head_induction_on with
  | refl =>
    obtain ⟨c, hop, _⟩ := TransGen.head'_iff.1 cycle
    rw [show next b = some c from hop]
    exact Option.some_ne_none c
  | @head a c hop _ ih =>
    obtain ⟨d, hop', back⟩ := TransGen.head'_iff.1 cycle
    have e : c = d := Option.some.inj (hop.symm.trans hop')
    subst e
    exact ih (TransGen.tail' back hop)

/-! ## The steps of a trail -/

section steps
variable {seen : List String} {name following : String}

/-- A walk that meets a name again returns. -/
lemma trail_of_mem (old : name ∈ seen) : trail next domain bounded seen name = ⟨[], true⟩ := by
  rw [trail, dif_pos old]

/-- A walk ends at a name that hops nowhere. -/
lemma trail_of_end (new : name ∉ seen) (step : next name = none) :
    trail next domain bounded seen name = ⟨[name], false⟩ := by
  rw [trail, dif_neg new]
  split
  next => rfl
  next following step' => cases step.symm.trans step'

/-- A walk puts a new name on its trail and goes on from the next one. -/
lemma trail_of_step (new : name ∉ seen) (step : next name = some following) :
    trail next domain bounded seen name =
      ⟨name :: (trail next domain bounded (name :: seen) following).names,
        (trail next domain bounded (name :: seen) following).returns⟩ := by
  rw [trail, dif_neg new]
  split
  next step' => cases step.symm.trans step'
  next following' step' =>
    cases step.symm.trans step'
    rfl

end steps

/-- What leads to a name leads to the next one. -/
lemma led_cons {seen : List String} {name following : String}
    (led : ∀ x ∈ seen, TransGen (Hop next) x name) (step : next name = some following) :
    ∀ x ∈ name :: seen, TransGen (Hop next) x following := by
  intro x mem
  cases mem with
  | head => exact .single step
  | tail _ mem => exact (led x mem).tail step

/-- A trail stops at an end exactly when steps lead there, if what was seen led to its start. -/
lemma getLast?_trail_beyond {seen : List String} {name last : String}
    (led : ∀ x ∈ seen, TransGen (Hop next) x name) (stop : next last = none) :
    (trail next domain bounded seen name).names.getLast? = some last ↔ Hops next name last := by
  induction seen, name using trail.induct next domain bounded with
  | case1 seen name old =>
    rw [trail_of_mem old]
    refine ⟨nofun, fun hops => ?_⟩
    exact (not_end_of_cycle (led name old) hops stop).elim
  | case2 seen name new step =>
    rw [trail_of_end new step]
    refine ⟨fun e => ?_, fun hops => ?_⟩
    · cases e
      exact .refl
    · rw [hops.eq_of_end step]
      rfl
  | case3 seen name new following step _ ih =>
    have differ : name ≠ last := by
      rintro rfl
      rw [step] at stop
      cases stop
    have tail : Hops next following last ↔ Hops next name last := by
      refine ⟨.head step, fun hops => ?_⟩
      obtain e | ⟨c, hop, rest⟩ := hops.cases_head
      · exact (differ e).elim
      · cases step.symm.trans hop
        exact rest
    rw [trail_of_step new step, ← tail, ← ih (led_cons led step), List.getLast?_cons]
    cases (trail next domain bounded (name :: seen) following).names.getLast? with
    | none => simp [differ]
    | some x => simp

/-- A trail stops at an end exactly when steps lead there. -/
theorem getLast?_trail {name last : String} (stop : next last = none) :
    (trail next domain bounded [] name).names.getLast? = some last ↔ Hops next name last :=
  getLast?_trail_beyond nofun stop

/-- A trail meets what steps lead to, unless that was seen before. -/
lemma mem_trail_beyond {seen : List String} {name x : String}
    (closed : ∀ a ∈ seen, ∀ b, next a = some b → b ∈ seen ∨ b = name) (hops : Hops next name x) :
    x ∈ (trail next domain bounded seen name).names ∨ x ∈ seen := by
  induction seen, name using trail.induct next domain bounded with
  | case1 seen name old =>
    right
    induction hops with
    | refl => exact old
    | tail _ hop ih =>
      obtain mem | rfl := closed _ ih _ hop
      · exact mem
      · exact old
  | case2 seen name new step =>
    cases hops.eq_of_end step
    rw [trail_of_end new step]
    exact .inl (List.mem_singleton_self _)
  | case3 seen name new following step _ ih =>
    have closed' : ∀ a ∈ name :: seen, ∀ b, next a = some b → b ∈ name :: seen ∨ b = following := by
      intro a mem b hop
      cases mem with
      | head => exact .inr (Option.some.inj (hop.symm.trans step))
      | tail _ mem =>
        left
        obtain mem' | rfl := closed a mem b hop
        · exact List.mem_cons_of_mem name mem'
        · exact List.mem_cons_self
    rw [trail_of_step new step]
    obtain rfl | ⟨c, hop, rest⟩ := hops.cases_head
    · exact .inl List.mem_cons_self
    · cases step.symm.trans hop
      obtain mem | mem := ih closed' rest
      · exact .inl (List.mem_cons_of_mem name mem)
      · cases mem with
        | head => exact .inl List.mem_cons_self
        | tail _ mem => exact .inr mem

/-- All names on a trail are reached by hops. -/
lemma hops_of_mem_trail {seen : List String} {name x : String}
    (mem : x ∈ (trail next domain bounded seen name).names) : Hops next name x := by
  induction seen, name using trail.induct next domain bounded with
  | case1 seen name old =>
    rw [trail_of_mem old] at mem
    cases mem
  | case2 seen name new step =>
    rw [trail_of_end new step] at mem
    cases List.mem_singleton.1 mem
    exact .refl
  | case3 seen name new following step _ ih =>
    rw [trail_of_step new step] at mem
    cases mem with
    | head => exact .refl
    | tail _ mem => exact .head step (ih mem)

/-- The names on a trail are those that single steps lead to. -/
theorem mem_trail_iff {name x : String} :
    x ∈ (trail next domain bounded [] name).names ↔ Hops next name x := by
  refine ⟨hops_of_mem_trail, fun hops => ?_⟩
  have closed : ∀ a ∈ [], ∀ b, next a = some b → b ∈ [] ∨ b = name := by
    intro a mem
    cases mem
  exact (mem_trail_beyond closed hops).resolve_right List.not_mem_nil

/-- A trail returns when no end can be reached, if what was seen led to its start. -/
lemma returns_trail_beyond {seen : List String} {name : String}
    (led : ∀ x ∈ seen, TransGen (Hop next) x name) :
    (trail next domain bounded seen name).returns = true ↔ ∀ x, Hops next name x → next x ≠ none := by
  induction seen, name using trail.induct next domain bounded with
  | case1 seen name old =>
    rw [trail_of_mem old]
    refine ⟨fun _ x hops => ?_, fun _ => rfl⟩
    -- what was seen led back here, so that the name is on a cycle
    exact not_end_of_cycle (led name old) hops
  | case2 seen name new step =>
    rw [trail_of_end new step]
    refine ⟨nofun, fun endless => ?_⟩
    exact (endless name .refl step).elim
  | case3 seen name new following step _ ih =>
    rw [trail_of_step new step, ih (led_cons led step)]
    constructor
    · intro endless x hops
      obtain rfl | ⟨c, hop, rest⟩ := hops.cases_head
      · rw [step]
        exact Option.some_ne_none following
      · cases step.symm.trans hop
        exact endless x rest
    · intro endless x hops
      exact endless x (.head step hops)

/-- A trail stops exactly when steps lead to an end. -/
theorem returns_trail_eq_false_iff {name : String} :
    (trail next domain bounded [] name).returns = false ↔
      ∃ last, Hops next name last ∧ next last = none := by
  have led : ∀ x ∈ [], TransGen (Hop next) x name := nofun
  rw [← Bool.not_eq_true, returns_trail_beyond led]
  simp only [ne_eq, Classical.not_forall, Classical.not_not, exists_prop]

/-! ## Cycles of several names -/

section cycles
variable {name : String}

/-- Steps from a name come back only from a name to itself. -/
def Straight (next : String → Option String) (name : String) : Prop :=
  ∀ x y, Hops next name x → Hops next x y → Hops next y x → x = y

/-- A way that does not return does not return from later names. -/
lemma Straight.tail {following : String} (straight : Straight next name) (hop : next name = some following) :
    Straight next following :=
  fun x y hops => straight x y (.head hop hops)

/-- A name before a cycle of several names steps to another name before it. -/
lemma exists_hop_of_cycle {x y : String} (hops : Hops next name x) (there : Hops next x y) (back : Hops next y x)
    (differ : x ≠ y) : ∃ following, next name = some following ∧ following ≠ name ∧ Hops next following x := by
  have other {following : String} (hop : next name = some following) : following ≠ name := by
    rintro rfl
    obtain rfl := hops.eq_of_self hop
    exact differ (there.eq_of_self hop)
  obtain rfl | ⟨following, hop, rest⟩ := hops.cases_head
  · obtain rfl | ⟨following, hop, rest⟩ := there.cases_head
    · exact (differ rfl).elim
    · exact ⟨following, hop, other hop, rest.trans back⟩
  · exact ⟨following, hop, other hop, rest⟩

/-- Where every step to another name goes down, no steps come back to a name. -/
lemma Straight.of_rank (rank : String → Nat) (falls : ∀ x y, next x = some y → y = x ∨ rank y < rank x) :
    Straight next name := by
  have fallen {x y : String} (hops : Hops next x y) : x = y ∨ rank y < rank x := by
    induction hops with
    | refl => exact .inl rfl
    | tail _ hop ih =>
      obtain rfl | less := falls _ _ hop
      · exact ih
      · obtain rfl | less' := ih
        · exact .inr less
        · exact .inr (Nat.lt_trans less less')
  intro x y _ there back
  obtain same | less := fallen there
  · exact same
  · obtain same | less' := fallen back
    · exact same.symm
    · exact (Nat.lt_asymm less less').elim

end cycles

end CapabilityRegistry.Walk
