import Mathlib.Tactic.Lemma

/-!
# Computations that succeed

What is known of the parts of a computation with errors once the whole has a result.
-/

namespace CapabilityRegistry

variable {α β γ ε ε' : Type}

instance decidableEqExcept [DecidableEq ε] [DecidableEq α] : DecidableEq (Except ε α)
  | .ok a, .ok b => decidable_of_iff (a = b) ⟨congrArg _, Except.ok.inj⟩
  | .error e, .error f => decidable_of_iff (e = f) ⟨congrArg _, Except.error.inj⟩
  | .ok _, .error _ => .isFalse nofun
  | .error _, .ok _ => .isFalse nofun

/-- A computation that succeeds has a result. -/
lemma exists_of_isOk {x : Except ε α} (succeeds : x.isOk = true) : ∃ a, x = .ok a := by
  cases x with
  | error e => cases succeeds
  | ok a => exact ⟨a, rfl⟩

/-- A computation has a result unless it has an error. -/
lemma exists_ok_iff {x : Except ε α} : (∃ a, x = .ok a) ↔ ∀ e, x ≠ .error e := by
  cases x with
  | error e =>
    constructor
    · intro h
      obtain ⟨_, ⟨⟩⟩ := h
    · exact fun succeeds => (succeeds e rfl).elim
  | ok a => exact ⟨fun _ => nofun, fun _ => ⟨a, rfl⟩⟩

/-- A sequence of two steps succeeds when both steps do. -/
lemma bind_eq_ok {x : Except ε α} {f : α → Except ε β} {b : β} :
    x >>= f = .ok b ↔ ∃ a, x = .ok a ∧ f a = .ok b := by
  cases x with
  | error e => exact ⟨nofun, nofun⟩
  | ok a =>
    constructor
    · exact fun done => ⟨a, rfl, done⟩
    · intro h
      obtain ⟨a', same, done⟩ := h
      cases same
      exact done

/-- A sequence of two steps fails where one of them does. -/
lemma bind_eq_error {x : Except ε α} {f : α → Except ε β} {e : ε} :
    x >>= f = .error e ↔ x = .error e ∨ ∃ a, x = .ok a ∧ f a = .error e := by
  cases x with
  | error e' =>
    constructor
    · intro failed
      cases failed
      exact .inl rfl
    · intro h
      obtain failed | ⟨_, ⟨⟩, _⟩ := h
      cases failed
      rfl
  | ok a =>
    constructor
    · exact fun failed => .inr ⟨a, rfl, failed⟩
    · intro h
      obtain ⟨_, same, failed⟩ := h.resolve_left nofun
      cases same
      exact failed

/-- A mapped computation succeeds with the image of a result. -/
lemma map_eq_ok {x : Except ε α} {f : α → β} {b : β} :
    f <$> x = .ok b ↔ ∃ a, x = .ok a ∧ f a = b := by
  cases x with
  | error e => exact ⟨nofun, nofun⟩
  | ok a =>
    constructor
    · intro done
      cases done
      exact ⟨a, rfl, rfl⟩
    · intro h
      obtain ⟨a', same, rfl⟩ := h
      cases same
      rfl

/-- A mapped computation fails with the errors of the computation. -/
lemma map_eq_error {x : Except ε α} {f : α → β} {e : ε} : f <$> x = .error e ↔ x = .error e := by
  cases x with
  | error e' =>
    constructor
    · intro failed
      cases failed
      rfl
    · intro failed
      cases failed
      rfl
  | ok a => exact ⟨nofun, nofun⟩

/-- Only the step that may fail makes a sequence fail. -/
lemma bind_pure_eq_error {x : Except ε α} {f : α → β} {e : ε} :
    (x >>= fun a => pure (f a)) = .error e ↔ x = .error e := by
  rw [bind_pure_comp]
  exact map_eq_error

/-- Errors that are reported in another way leave the results as they are. -/
lemma mapError_eq_ok {x : Except ε α} {f : ε → ε'} {a : α} : x.mapError f = .ok a ↔ x = .ok a := by
  cases x with
  | error e => exact ⟨nofun, nofun⟩
  | ok a' =>
    constructor
    · intro done
      cases done
      rfl
    · intro done
      cases done
      rfl

section mapM
variable {f : α → Except ε β} {l : List α} {bs : List β}

/-- A list of steps succeeds when the first one and the others do. -/
lemma mapM_cons_eq_ok {a : α} :
    (a :: l).mapM f = .ok bs ↔ ∃ b bs', f a = .ok b ∧ l.mapM f = .ok bs' ∧ bs = b :: bs' := by
  rw [List.mapM_cons, bind_eq_ok]
  constructor
  · intro h
    obtain ⟨b, first, done⟩ := h
    obtain ⟨bs', others, done⟩ := bind_eq_ok.1 done
    cases done
    exact ⟨b, bs', first, others, rfl⟩
  · intro h
    obtain ⟨b, bs', first, others, rfl⟩ := h
    exact ⟨b, first, bind_eq_ok.2 ⟨bs', others, rfl⟩⟩

/-- What the results of a traversal have in common with what was traversed. -/
lemma map_eq_map_of_mapM {h : β → γ} {k : α → γ} (agree : ∀ {a b}, f a = .ok b → h b = k a)
    (done : l.mapM f = .ok bs) : bs.map h = l.map k := by
  induction l generalizing bs with
  | nil =>
    cases done
    rfl
  | cons a l ih =>
    obtain ⟨b, bs', first, others, rfl⟩ := mapM_cons_eq_ok.1 done
    rw [List.map_cons, List.map_cons, agree first, ih others]

/-- What the results of a traversal give, where each one gives the same as what was traversed. -/
lemma filterMap_eq_of_mapM {h : β → Option γ} {k : α → Option γ} (agree : ∀ {a b}, f a = .ok b → h b = k a)
    (done : l.mapM f = .ok bs) : bs.filterMap h = l.filterMap k := by
  induction l generalizing bs with
  | nil =>
    cases done
    rfl
  | cons a l ih =>
    obtain ⟨b, bs', first, others, rfl⟩ := mapM_cons_eq_ok.1 done
    rw [List.filterMap_cons, List.filterMap_cons, agree first, ih others]

/-- The results of a traversal, where each one that there is has a closed form. -/
lemma eq_map_of_mapM {k : α → β} (agree : ∀ {a b}, f a = .ok b → b = k a) (done : l.mapM f = .ok bs) :
    bs = l.map k := by
  have same : bs.map id = l.map k := map_eq_map_of_mapM agree done
  rwa [List.map_id] at same

/-- What the results of a traversal hold, where each one holds the same as what was traversed. -/
lemma flatMap_perm_of_mapM {h : β → List γ} {k : α → List γ}
    (agree : ∀ {a b}, f a = .ok b → (h b).Perm (k a)) (done : l.mapM f = .ok bs) :
    (bs.flatMap h).Perm (l.flatMap k) := by
  induction l generalizing bs with
  | nil =>
    cases done
    exact .nil
  | cons a l ih =>
    obtain ⟨b, bs', first, others, rfl⟩ := mapM_cons_eq_ok.1 done
    exact (agree first).append (ih others)

/-- A traversal that succeeds has done so everywhere. -/
lemma ok_of_mapM (done : l.mapM f = .ok bs) {a : α} (mem : a ∈ l) : ∃ b, f a = .ok b := by
  induction l generalizing bs with
  | nil => cases mem
  | cons a' l ih =>
    obtain ⟨b, bs', first, others, _⟩ := mapM_cons_eq_ok.1 done
    cases mem with
    | head => exact ⟨b, first⟩
    | tail _ mem => exact ih others mem

/-- The results of a traversal are those of its steps. -/
lemma mem_of_mapM (done : l.mapM f = .ok bs) {b : β} : b ∈ bs ↔ ∃ a ∈ l, f a = .ok b := by
  induction l generalizing bs with
  | nil =>
    cases done
    exact ⟨nofun, nofun⟩
  | cons a l ih =>
    obtain ⟨b', bs', first, others, rfl⟩ := mapM_cons_eq_ok.1 done
    simp only [List.mem_cons, exists_eq_or_imp, ih others, first, Except.ok.injEq]
    rw [eq_comm]

/-- A traversal fails with the error of one of its steps. -/
lemma error_of_mapM {e : ε} (failed : l.mapM f = .error e) : ∃ a ∈ l, f a = .error e := by
  induction l with
  | nil => cases failed
  | cons a l ih =>
    rw [List.mapM_cons] at failed
    obtain first | ⟨b, _, failed⟩ := bind_eq_error.1 failed
    · exact ⟨a, List.mem_cons_self, first⟩
    · obtain others | ⟨bs, _, ⟨⟩⟩ := bind_eq_error.1 failed
      obtain ⟨a', mem, step⟩ := ih others
      exact ⟨a', List.mem_cons_of_mem a mem, step⟩

end mapM

/-- Two computations that agree on each step agree on a whole run. -/
lemma foldlM_of_step {f : β → α → Except ε β} {g : γ → α → Except ε' γ} {r : β → γ} {k : ε → ε'}
    (step : ∀ b a, g (r b) a = (r <$> f b a).mapError k) {l : List α} {b : β} :
    l.foldlM g (r b) = (r <$> l.foldlM f b).mapError k := by
  induction l generalizing b with
  | nil => rfl
  | cons a l ih =>
    rw [List.foldlM_cons, List.foldlM_cons, step]
    cases f b a with
    | error e => rfl
    | ok b' => exact ih

end CapabilityRegistry
