import CapabilityRegistry.Proofs.Success
import Mathlib.Data.List.Basic

/-!
# What is given first

Entries of a list that may each give something, of which only the first one that does counts. Something is
given at all exactly when some entry gives it (`exists_firstGiven_iff`), and what comes from a list in two parts
comes from the first part, if that gives anything (`firstGiven_append`). So a traversal fails with the first
error of its steps (`mapM_eq_error_iff`).
-/

namespace CapabilityRegistry

variable {α β γ δ : Type} {gives : α → β → Prop} {a : α} {b : β} {l l' : List α}

/-- What the first entry gives of those that give anything. -/
def FirstGiven (gives : α → β → Prop) (l : List α) (b : β) : Prop :=
  ∃ before a after, l = before ++ a :: after ∧ gives a b ∧ ∀ earlier ∈ before, ∀ b', ¬ gives earlier b'

/-- Nothing is given by no items. -/
lemma not_firstGiven_nil : ¬ FirstGiven gives [] b := by
  intro given
  obtain ⟨before, a, after, empty, _⟩ := given
  exact List.append_ne_nil_of_right_ne_nil before (List.cons_ne_nil a after) empty.symm

/-- The first item gives it, or gives nothing and leaves it to the others. -/
lemma firstGiven_cons :
    FirstGiven gives (a :: l) b ↔ gives a b ∨ (∀ b', ¬ gives a b') ∧ FirstGiven gives l b := by
  constructor
  · intro given
    obtain ⟨before, a', after, eq, gave, silent⟩ := given
    cases before with
    | nil =>
      cases eq
      exact .inl gave
    | cons first before =>
      cases eq
      obtain ⟨silent, later⟩ := List.forall_mem_cons.1 silent
      exact .inr ⟨silent, before, a', after, rfl, gave, later⟩
  · intro given
    obtain gave | ⟨silent, before, a', after, rfl, gave, later⟩ := given
    · exact ⟨[], a, l, rfl, gave, nofun⟩
    · exact ⟨a :: before, a', after, rfl, gave, List.forall_mem_cons.2 ⟨silent, later⟩⟩

/-- The second list counts only where the first one gives nothing. -/
lemma firstGiven_append :
    FirstGiven gives (l ++ l') b ↔
      FirstGiven gives l b ∨ (∀ a ∈ l, ∀ b', ¬ gives a b') ∧ FirstGiven gives l' b := by
  induction l with
  | nil => simp [not_firstGiven_nil]
  | cons a l ih =>
    rw [List.cons_append, firstGiven_cons, firstGiven_cons, ih, and_or_left, or_assoc, ← and_assoc,
      List.forall_mem_cons]

/-- What mapped items give is given by the items before mapping. -/
lemma firstGiven_map {f : γ → α} {l : List γ} :
    FirstGiven gives (l.map f) b ↔ FirstGiven (gives <| f ·) l b := by
  induction l with
  | nil => exact ⟨fun given => (not_firstGiven_nil given).elim, fun given => (not_firstGiven_nil given).elim⟩
  | cons c l ih => rw [List.map_cons, firstGiven_cons, firstGiven_cons, ih]

/-- Something is given first if anything is given. -/
lemma exists_firstGiven_iff : (∃ b, FirstGiven gives l b) ↔ ∃ a ∈ l, ∃ b, gives a b := by
  constructor
  · intro given
    obtain ⟨b, before, a, after, rfl, gave, _⟩ := given
    exact ⟨a, List.mem_append_right _ List.mem_cons_self, b, gave⟩
  · intro supplied
    induction l with
    | nil =>
      obtain ⟨_, mem, _⟩ := supplied
      cases mem
    | cons a l ih =>
      by_cases now : ∃ b, gives a b
      · obtain ⟨b, gave⟩ := now
        exact ⟨b, firstGiven_cons.2 (.inl gave)⟩
      · obtain ⟨b, given⟩ := ih (((List.exists_mem_cons_iff ..).1 supplied).resolve_left now)
        exact ⟨b, firstGiven_cons.2 (.inr ⟨not_exists.1 now, given⟩)⟩

/-- Nothing is given first if no item gives anything. -/
lemma forall_not_firstGiven_iff : (∀ b, ¬ FirstGiven gives l b) ↔ ∀ a ∈ l, ∀ b, ¬ gives a b := by
  rw [← not_exists, exists_firstGiven_iff]
  simp only [not_exists, not_and]

/-- What comes from a list of lists comes from the first of them that gives anything. -/
lemma firstGiven_flatMap {f : γ → List α} {l : List γ} :
    FirstGiven gives (l.flatMap f) b ↔ FirstGiven (fun c => FirstGiven gives (f c)) l b := by
  induction l with
  | nil => exact ⟨fun given => (not_firstGiven_nil given).elim, fun given => (not_firstGiven_nil given).elim⟩
  | cons c l ih =>
    rw [List.flatMap_cons, firstGiven_append, firstGiven_cons, ih, forall_not_firstGiven_iff]

/-- Something is given by two lists if one of them gives anything. -/
lemma exists_firstGiven_append :
    (∃ b, FirstGiven gives (l ++ l') b) ↔ (∃ b, FirstGiven gives l b) ∨ ∃ b, FirstGiven gives l' b := by
  simp only [exists_firstGiven_iff, List.mem_append, or_and_right, exists_or]

/-- Something is given by flattened lists if one of them gives anything. -/
lemma exists_firstGiven_flatMap {f : γ → List α} {l : List γ} :
    (∃ b, FirstGiven gives (l.flatMap f) b) ↔ ∃ c ∈ l, ∃ b, FirstGiven gives (f c) b :=
  (exists_congr fun _ => firstGiven_flatMap).trans exists_firstGiven_iff

/-- Searching a list for a first answer. -/
lemma findSome?_eq_some_iff_firstGiven {f : α → Option β} (agree : ∀ a b, f a = some b ↔ gives a b) :
    l.findSome? f = some b ↔ FirstGiven gives l b := by
  have none_iff : ∀ a, f a = none ↔ ∀ b', ¬ gives a b' := by
    intro a
    simp only [Option.eq_none_iff_forall_ne_some, ne_eq, agree]
  rw [List.findSome?_eq_some_iff, FirstGiven]
  simp only [agree, none_iff]

/-- A list of steps fails with what the first failing step gives. -/
lemma mapM_eq_error_iff {f : α → Except β γ} (agree : ∀ a b, f a = .error b ↔ gives a b) :
    l.mapM f = .error b ↔ FirstGiven gives l b := by
  induction l with
  | nil => exact ⟨nofun, fun given => (not_firstGiven_nil given).elim⟩
  | cons a l ih =>
    rw [List.mapM_cons, bind_eq_error, firstGiven_cons, agree, ← ih]
    apply or_congr_right
    simp only [← agree, ← ne_eq, ← exists_ok_iff, bind_pure_eq_error, exists_and_right]

/-- Two steps of which each fails with what its own list gives first. -/
lemma bind_eq_error_iff_firstGiven {x : Except β γ} {f : γ → Except β δ}
    (first : ∀ b, x = .error b ↔ FirstGiven gives l b)
    (second : ∀ c b, f c = .error b ↔ FirstGiven gives l' b) :
    x >>= f = .error b ↔ FirstGiven gives (l ++ l') b := by
  rw [bind_eq_error, firstGiven_append, first]
  apply or_congr_right
  simp only [second, exists_and_right, exists_ok_iff, ne_eq, first, forall_not_firstGiven_iff]

end CapabilityRegistry
