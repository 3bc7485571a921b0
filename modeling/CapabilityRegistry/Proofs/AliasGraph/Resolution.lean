import CapabilityRegistry.Proofs.AliasGraph

/-!
# Resolution

The value that an alias resolves to is the one of the first name on its walk that has a value
(`resolve_eq_some_iff`), so that it depends on the edges alone and not on the order in which they were
inserted (`resolve_congr`). To resolve all aliases at once, with the answers kept on the way, gives each
alias the answer that it has by itself (`mem_resolveAll_iff`), and gives it once (`lookup_resolveAll`).
-/

namespace CapabilityRegistry

/-! ## Walks in other domains -/

namespace Walk

/-- A trail follows the next names only; what bounds the walk does not show in it. -/
lemma trail_congr {next next' : String → Option String} {domain domain' : List String}
    {bounded : ∀ x y, next x = some y → x ∈ domain} {bounded' : ∀ x y, next' x = some y → x ∈ domain'}
    {seen : List String} {name : String} (same : next = next') :
    trail next domain bounded seen name = trail next' domain' bounded' seen name := by
  subst same
  induction seen, name using trail.induct next domain bounded with
  | case1 seen name old => rw [trail_of_mem old, trail_of_mem old]
  | case2 seen name new step => rw [trail_of_end new step, trail_of_end new step]
  | case3 seen name new following step _ ih => rw [trail_of_step new step, trail_of_step new step, ih]

end Walk

namespace AliasGraph

variable {α : Type} {g g' : AliasGraph} {lookup : String → Option α} {name following : String} {value : α}

/-- The first value on the walk from a name. -/
inductive Yields (g : AliasGraph) (lookup : String → Option α) : String → α → Prop where
  | here {name : String} {value : α} : lookup name = some value → Yields g lookup name value
  | step {name following : String} {value : α} : lookup name = none →
      g.target? name = some following → Yields g lookup following value → Yields g lookup name value

namespace Yields

/-- A name yields one value only, that of the first name with one along its way. -/
lemma unique {value' : α} (yields : Yields g lookup name value) (yields' : Yields g lookup name value') :
    value = value' := by
  induction yields with
  | here found =>
    cases yields' with
    | here found' => exact Option.some.inj (found.symm.trans found')
    | step bare _ _ => cases found.symm.trans bare
  | step bare hop _ ih =>
    cases yields' with
    | here found => cases found.symm.trans bare
    | step _ hop' rest' =>
      cases hop.symm.trans hop'
      exact ih rest'

/-- A yielded value is that of a name on the way. -/
lemma exists_mem (yields : Yields g lookup name value) :
    ∃ x, Walk.Hops g.target? name x ∧ lookup x = some value := by
  induction yields with
  | here found => exact ⟨_, .refl, found⟩
  | step _ hop _ ih =>
    obtain ⟨x, hops, found⟩ := ih
    exact ⟨x, .head hop hops, found⟩

/-- Nothing is yielded where the walk stays among names without a value. -/
lemma not_of_closed {names : List String} (bare : ∀ x ∈ names, lookup x = none)
    (closed : ∀ x ∈ names, ∀ y, g.target? x = some y → y ∈ names) (mem : name ∈ names) :
    ¬ Yields g lookup name value := by
  intro yields
  induction yields with
  | here found => cases found.symm.trans (bare _ mem)
  | step _ hop _ ih => exact ih (closed _ mem _ hop)

end Yields

/-- The first value on a trail is yielded. -/
lemma yields_of_trail {domain seen : List String} {bounded : ∀ x y, g.target? x = some y → x ∈ domain}
    (found : (Walk.trail g.target? domain bounded seen name).names.findSome? lookup = some value) :
    Yields g lookup name value := by
  induction seen, name using Walk.trail.induct g.target? domain bounded with
  | case1 seen name old =>
    rw [Walk.trail_of_mem old] at found
    cases found
  | case2 seen name new step =>
    rw [Walk.trail_of_end new step, List.findSome?_singleton] at found
    exact .here found
  | case3 seen name new following step _ ih =>
    rw [Walk.trail_of_step new step, List.findSome?_cons] at found
    cases own : lookup name with
    | some value' =>
      rw [own] at found
      cases found
      exact .here own
    | none =>
      rw [own] at found
      exact .step own step (ih found)

/-- A name resolves to the value that its walk yields. -/
theorem resolve_eq_some_iff : g.resolve lookup name = some value ↔ Yields g lookup name value := by
  refine ⟨yields_of_trail, fun yields => ?_⟩
  -- the trail meets the name that has the value, so that the search along it finds one
  obtain ⟨x, hops, found⟩ := yields.exists_mem
  have met : x ∈ (g.trail name).names := Walk.mem_trail_iff.2 hops
  cases result : g.resolve lookup name with
  | none =>
    have bare := List.findSome?_eq_none_iff.1 result x met
    cases found.symm.trans bare
  | some value' => rw [yields.unique (yields_of_trail result)]

/-! ## Steps of a resolution -/

/-- A name with a value of its own resolves to that. -/
lemma resolve_of_value (found : lookup name = some value) : g.resolve lookup name = some value :=
  resolve_eq_some_iff.2 (.here found)

/-- A name without an edge resolves to its own value. -/
lemma resolve_of_end (stop : g.target? name = none) : g.resolve lookup name = lookup name := by
  apply Option.ext
  intro value
  rw [resolve_eq_some_iff]
  constructor
  · intro yields
    cases yields with
    | here found => exact found
    | step _ hop _ => cases hop.symm.trans stop
  · exact .here

/-- A name without a value resolves as the next one does. -/
lemma resolve_of_step (bare : lookup name = none) (hop : g.target? name = some following) :
    g.resolve lookup name = g.resolve lookup following := by
  apply Option.ext
  intro value
  rw [resolve_eq_some_iff, resolve_eq_some_iff]
  constructor
  · intro yields
    cases yields with
    | here found => cases found.symm.trans bare
    | step _ hop' rest =>
      cases hop.symm.trans hop'
      exact rest
  · exact .step bare hop

/-! ## Graphs with the same edges -/

/-- What a name resolves to depends on the edges only. -/
lemma resolve_congr (same : g.target? = g'.target?) : g.resolve lookup = g'.resolve lookup := by
  funext name
  exact congrArg (fun t : Walk.Trail => t.names.findSome? lookup) (Walk.trail_congr same)

/-- The root of a name depends on the edges only. -/
lemma root?_congr (same : g.target? = g'.target?) : g.root? = g'.root? := by
  funext name
  exact congrArg (fun t : Walk.Trail => if t.returns then none else t.names.getLast?)
    (Walk.trail_congr same)

/-! ## Answers that are kept -/

section probe
variable {memo : List (String × Option α)} {path : List String}

/-- Every answer that is kept is the one that the name has by itself. -/
def Right (g : AliasGraph) (lookup : String → Option α) (memo : List (String × Option α)) : Prop :=
  ∀ entry ∈ memo, entry.2 = g.resolve lookup entry.1

/-- A way without values that has led to a name. -/
structure Bare (g : AliasGraph) (lookup : String → Option α) (path : List String) (name : String) :
    Prop where
  bare : ∀ x ∈ path, lookup x = none
  closed : ∀ x ∈ path, ∀ y, g.target? x = some y → y ∈ path ∨ y = name
  same : ∀ x ∈ path, g.resolve lookup x = g.resolve lookup name

/-- Nothing has been passed at the start. -/
lemma Bare.nil : Bare g lookup [] name where
  bare _ mem := (List.not_mem_nil mem).elim
  closed _ mem := (List.not_mem_nil mem).elim
  same _ mem := (List.not_mem_nil mem).elim

/-- A name without a value that has been passed lengthens the way by one hop. -/
lemma Bare.cons (way : Bare g lookup path name) (bare : lookup name = none)
    (hop : g.target? name = some following) : Bare g lookup (name :: path) following where
  bare := List.forall_mem_cons.2 ⟨bare, way.bare⟩
  closed := by
    intro x mem y next
    cases mem with
    | head => exact .inr (Option.some.inj (next.symm.trans hop))
    | tail _ mem =>
      left
      obtain on | rfl := way.closed x mem y next
      · exact List.mem_cons_of_mem name on
      · exact List.mem_cons_self
  same := by
    have next := resolve_of_step bare hop
    exact List.forall_mem_cons.2 ⟨next, fun x mem => (way.same x mem).trans next⟩

/-- A way without values that comes back to itself resolves to nothing. -/
lemma Bare.resolve_of_mem (way : Bare g lookup path name) (old : name ∈ path) :
    g.resolve lookup name = none := by
  have closed : ∀ x ∈ path, ∀ y, g.target? x = some y → y ∈ path := by
    intro x mem y next
    obtain on | rfl := way.closed x mem y next
    · exact on
    · exact old
  apply Option.eq_none_iff_forall_ne_some.2
  intro value resolved
  exact Yields.not_of_closed way.bare closed old (resolve_eq_some_iff.1 resolved)

/-! ### The steps of a search -/

/-- A probe ends at an answer that is kept. -/
lemma probe_of_kept {answer : Option α} (kept : memo.lookup name = some answer) :
    g.probe lookup memo path name = (path, answer) := by
  rw [probe, kept]

variable (forgotten : memo.lookup name = none)

include forgotten

/-- A probe ends without a value where the way comes back to itself. -/
lemma probe_of_mem (old : name ∈ path) : g.probe lookup memo path name = (path, none) := by
  rw [probe, forgotten]
  exact dif_pos old

variable (new : name ∉ path)

include new

/-- A probe ends at a name with a value of its own. -/
lemma probe_of_value (own : lookup name = some value) :
    g.probe lookup memo path name = (name :: path, some value) := by
  rw [probe, forgotten]
  dsimp only
  rw [dif_neg new, own]

/-- A probe goes on from a name without a value to the next one. -/
lemma probe_of_step (bare : lookup name = none) (hop : g.target? name = some following) :
    g.probe lookup memo path name = g.probe lookup memo (name :: path) following := by
  rw [probe, forgotten]
  dsimp only
  rw [dif_neg new, bare]
  dsimp only
  split
  next following' hop' =>
    cases hop.symm.trans hop'
    rfl
  next stop => cases hop.symm.trans stop

/-- A probe ends without a value at a name that stands for nothing. -/
lemma probe_of_end (bare : lookup name = none) (stop : g.target? name = none) :
    g.probe lookup memo path name = (name :: path, none) := by
  rw [probe, forgotten]
  dsimp only
  rw [dif_neg new, bare]
  dsimp only
  split
  next following hop => cases hop.symm.trans stop
  next => rfl

omit forgotten new

/-! ### What a search finds -/

/-- The names that a probe has passed stay on its path. -/
lemma subset_probe : path ⊆ (g.probe lookup memo path name).1 := by
  induction path, name using probe.induct g lookup memo with
  | case1 path name answer kept =>
    rw [probe_of_kept kept]
    exact List.Subset.refl path
  | case2 path name forgotten old =>
    rw [probe_of_mem forgotten old]
    exact List.Subset.refl path
  | case3 path name forgotten new value own =>
    rw [probe_of_value forgotten new own]
    exact List.subset_cons_self name path
  | case4 path name forgotten new bare following hop _ ih =>
    rw [probe_of_step forgotten new bare hop]
    exact List.Subset.trans (List.subset_cons_self name path) ih
  | case5 path name forgotten new bare stop =>
    rw [probe_of_end forgotten new bare stop]
    exact List.subset_cons_self name path

/-- A search meets the name that it starts from, unless the answer of that name is kept. -/
lemma mem_probe (forgotten : memo.lookup name = none) : name ∈ (g.probe lookup memo [] name).1 := by
  have new : name ∉ [] := List.not_mem_nil
  cases own : lookup name with
  | some value =>
    rw [probe_of_value forgotten new own]
    exact List.mem_cons_self
  | none =>
    cases hop : g.target? name with
    | some following =>
      rw [probe_of_step forgotten new own hop]
      exact subset_probe List.mem_cons_self
    | none =>
      rw [probe_of_end forgotten new own hop]
      exact List.mem_cons_self

/-- What a search finds is the answer of every name that it has met. -/
lemma probe_right (right : Right g lookup memo) (way : Bare g lookup path name) :
    ∀ x ∈ (g.probe lookup memo path name).1,
      (g.probe lookup memo path name).2 = g.resolve lookup x := by
  -- along the search the names met so far resolve as the one that is asked next
  induction path, name using probe.induct g lookup memo with
  | case1 path name answer kept =>
    rw [probe_of_kept kept]
    have own : answer = g.resolve lookup name := right (name, answer) (mem_of_lookup kept)
    exact fun x mem => own.trans (way.same x mem).symm
  | case2 path name forgotten old =>
    rw [probe_of_mem forgotten old]
    exact fun x mem => (way.resolve_of_mem old).symm.trans (way.same x mem).symm
  | case3 path name forgotten new value own =>
    have found := resolve_of_value (g := g) own
    rw [probe_of_value forgotten new own]
    exact List.forall_mem_cons.2 ⟨found.symm, fun x mem => found.symm.trans (way.same x mem).symm⟩
  | case4 path name forgotten new bare following hop _ ih =>
    rw [probe_of_step forgotten new bare hop]
    exact ih (way.cons bare hop)
  | case5 path name forgotten new bare stop =>
    have nothing := (resolve_of_end stop).trans bare
    rw [probe_of_end forgotten new bare stop]
    exact List.forall_mem_cons.2 ⟨nothing.symm, fun x mem => nothing.symm.trans (way.same x mem).symm⟩

/-- If the kept answers are right then so are those with the answer of one more probe. -/
lemma right_remember (right : Right g lookup memo) : Right g lookup (g.remember lookup memo name) := by
  unfold remember
  split
  next => exact right
  next =>
    intro entry mem
    obtain new | old := List.mem_append.1 mem
    · obtain ⟨x, met, rfl⟩ := List.mem_map.1 new
      exact probe_right right .nil x met
    · exact right entry old

/-- An answer is kept for a name that was asked for, and none is dropped. -/
lemma mem_remember {x : String} (mem : x ∈ memo.map (·.1) ∨ x = name) :
    x ∈ (g.remember lookup memo name).map (·.1) := by
  unfold remember
  split
  next kept =>
    obtain mem | rfl := mem
    · exact mem
    · obtain ⟨answer, kept⟩ := Option.isSome_iff_exists.1 kept
      exact List.mem_map_of_mem (mem_of_lookup kept)
  next unkept =>
    dsimp only
    rw [List.map_append, List.mem_append, List.map_map]
    obtain mem | rfl := mem
    · exact .inr mem
    · left
      have forgotten : memo.lookup x = none := Option.not_isSome_iff_eq_none.1 unkept
      exact List.mem_map.2 ⟨x, mem_probe forgotten, rfl⟩

/-- After a row of searches all answers that are kept are right, and one is kept for each name. -/
lemma remembered {names : List String} (right : Right g lookup memo) :
    Right g lookup (names.foldl (g.remember lookup) memo) ∧
      ∀ x, x ∈ memo.map (·.1) ∨ x ∈ names → x ∈ (names.foldl (g.remember lookup) memo).map (·.1) := by
  induction names generalizing memo with
  | nil => exact ⟨right, fun x mem => mem.resolve_right List.not_mem_nil⟩
  | cons name names ih =>
    have next : Right g lookup (g.remember lookup memo name) := right_remember right
    obtain ⟨right', kept⟩ := ih next
    refine ⟨right', fun x mem => kept x ?_⟩
    obtain old | now := mem
    · exact .inl (mem_remember (.inl old))
    · obtain rfl | later := List.mem_cons.1 now
      · exact .inl (mem_remember (.inr rfl))
      · exact .inr later

/-! ### No answer is kept twice -/

/-- A way among names without a kept answer, none of them met twice. -/
def Fresh (memo : List (String × Option α)) (path : List String) : Prop :=
  path.Nodup ∧ ∀ x ∈ path, memo.lookup x = none

/-- No name is on the empty path. -/
lemma Fresh.nil : Fresh memo [] :=
  ⟨List.nodup_nil, fun _ mem => (List.not_mem_nil mem).elim⟩

/-- A name whose answer is not kept may come to the path once. -/
lemma Fresh.cons (fresh : Fresh memo path) (forgotten : memo.lookup name = none) (new : name ∉ path) :
    Fresh memo (name :: path) :=
  ⟨List.nodup_cons.2 ⟨new, fresh.1⟩, List.forall_mem_cons.2 ⟨forgotten, fresh.2⟩⟩

/-- All names that a probe comes by are without an answer till then. -/
lemma Fresh.probe (fresh : Fresh memo path) : Fresh memo (g.probe lookup memo path name).1 := by
  induction path, name using probe.induct g lookup memo with
  | case1 path name answer kept =>
    rw [probe_of_kept kept]
    exact fresh
  | case2 path name forgotten old =>
    rw [probe_of_mem forgotten old]
    exact fresh
  | case3 path name forgotten new value own =>
    rw [probe_of_value forgotten new own]
    exact fresh.cons forgotten new
  | case4 path name forgotten new bare following hop _ ih =>
    rw [probe_of_step forgotten new bare hop]
    exact ih (fresh.cons forgotten new)
  | case5 path name forgotten new bare stop =>
    rw [probe_of_end forgotten new bare stop]
    exact fresh.cons forgotten new

/-- One more probe keeps no answer twice. -/
lemma nodup_remember (nodup : (memo.map (·.1)).Nodup) :
    ((g.remember lookup memo name).map (·.1)).Nodup := by
  unfold remember
  split
  next => exact nodup
  next =>
    obtain ⟨distinct, forgotten⟩ : Fresh memo (g.probe lookup memo [] name).1 := Fresh.nil.probe
    have names : ((g.probe lookup memo [] name).1.map (·, (g.probe lookup memo [] name).2)).map (·.1) =
        (g.probe lookup memo [] name).1 := by
      rw [List.map_map]
      exact List.map_id _
    dsimp only
    rw [List.map_append, names]
    refine List.nodup_append.2 ⟨distinct, nodup, ?_⟩
    rintro x met y held rfl
    obtain ⟨entry, mem, rfl⟩ := List.mem_map.1 held
    have absent := List.lookup_eq_none_iff.1 (forgotten entry.1 met) entry mem
    exact bne_iff_ne.1 absent rfl

/-- However many names are probed, no answer is kept twice. -/
lemma nodup_remembered {names : List String} (nodup : (memo.map (·.1)).Nodup) :
    ((names.foldl (g.remember lookup) memo).map (·.1)).Nodup := by
  induction names generalizing memo with
  | nil => exact nodup
  | cons name names ih => exact ih (nodup_remember nodup)

end probe

/-- To resolve all aliases gives each alias, and nothing else, the answer that it has by itself. -/
theorem mem_resolveAll_iff {answer : Option α} :
    (name, answer) ∈ g.resolveAll lookup ↔ name ∈ g.aliases ∧ answer = g.resolve lookup name := by
  have start : Right g lookup [] := fun _ mem => (List.not_mem_nil mem).elim
  obtain ⟨right, kept⟩ : Right g lookup (g.aliases.foldl (g.remember lookup) []) ∧ _ := remembered start
  have alias_iff : g.isAlias name = true ↔ name ∈ g.aliases := by
    rw [isAlias, Option.isSome_iff_ne_none, ne_eq, target?_eq_none_iff, not_not]
  rw [resolveAll, List.mem_filter, alias_iff, and_comm]
  refine and_congr_right fun mem => ⟨right _, ?_⟩
  rintro rfl
  obtain ⟨entry, held, rfl⟩ := List.mem_map.1 (kept name (.inr mem))
  rwa [← right entry held]

/-- To resolve all aliases lists each alias once, and under an alias stands what its own walk finds. -/
theorem lookup_resolveAll (g : AliasGraph) (lookup : String → Option α) :
    ((g.resolveAll lookup).map (·.1)).Perm g.aliases ∧
      ∀ name, (g.resolveAll lookup).lookup name =
        if name ∈ g.aliases then some (g.resolve lookup name) else none := by
  have start : (([] : List (String × Option α)).map (·.1)).Nodup := List.nodup_nil
  have nodup : ((g.resolveAll lookup).map (·.1)).Nodup :=
    (nodup_remembered start).sublist (List.filter_sublist.map _)
  have members : ∀ name, name ∈ (g.resolveAll lookup).map (·.1) ↔ name ∈ g.aliases := by
    intro name
    constructor
    · intro mem
      obtain ⟨entry, held, rfl⟩ := List.mem_map.1 mem
      exact (mem_resolveAll_iff.1 held).1
    · intro mem
      exact List.mem_map_of_mem (mem_resolveAll_iff.2 ⟨mem, rfl⟩)
  refine ⟨(List.perm_ext_iff_of_nodup nodup g.nodup).2 members, fun name => ?_⟩
  split
  next mem => exact (functional_of_nodup nodup).lookup_eq_some_iff.2 (mem_resolveAll_iff.2 ⟨mem, rfl⟩)
  next absent =>
    refine List.lookup_eq_none_iff.2 fun entry held => bne_iff_ne.2 ?_
    rintro rfl
    exact absent (mem_resolveAll_iff.1 held).1

end AliasGraph

end CapabilityRegistry
