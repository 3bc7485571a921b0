import CapabilityRegistry.Proofs.AliasGraph
import CapabilityRegistry.Proofs.Distinct
import CapabilityRegistry.Proofs.Mappings.Build
import Mathlib.Data.List.Nodup

/-!
# Claims

What a row of claims has claimed: the structs behind its entries on top of what was claimed before, each
once. The tables made of the entries, core groups and merged requirers, hold the same entries in another
order.
-/

namespace CapabilityRegistry.Mappings

namespace ClaimContext
variable {ctx : ClaimContext} {claimed : List String}

/-- The struct behind an entry. -/
def behind (ctx : ClaimContext) (e : StructEntry) : String :=
  canonicalIn ctx.aliases e.name

/-- A claim succeeds for a reportable name with a tag whose struct is free. -/
lemma claim?_eq_some_iff {name : String} {e : StructEntry} :
    ctx.claim? claimed name = some e ↔
      e.name = name ∧ name ∈ ctx.reportableNames ∧ canonicalIn ctx.aliases name ∉ claimed ∧
        ctx.typeTags.get? name = some e.typeTag := by
  unfold claim?
  split
  next free =>
    simp only [Bool.and_eq_true, List.contains_eq_mem, decide_eq_true_eq, Bool.not_eq_true',
      decide_eq_false_iff_not] at free
    simp only [Option.map_eq_some_iff, free, not_false_eq_true, true_and]
    constructor
    · intro h
      obtain ⟨tag, found, rfl⟩ := h
      exact ⟨rfl, found⟩
    · intro h
      obtain ⟨rfl, found⟩ := h
      exact ⟨e.typeTag, found, rfl⟩
  next taken =>
    refine ⟨nofun, fun ⟨_, mem, free, _⟩ => (taken ?_).elim⟩
    simp [mem, free]

/-- A row of claims adds the structs behind its entries. -/
lemma claimNames_snd {names : List String} :
    (ctx.claimNames claimed names).2 =
      ((ctx.claimNames claimed names).1.map ctx.behind).reverse ++ claimed := by
  induction names generalizing claimed with
  | nil => rfl
  | cons name names ih =>
    rw [claimNames]
    cases result : ctx.claim? claimed name with
    | none => exact ih
    | some e =>
      obtain ⟨rfl, _⟩ := claim?_eq_some_iff.1 result
      simp only [ih, List.map_cons, List.reverse_cons, behind, List.append_assoc, List.cons_append,
        List.nil_append]

/-- The structs behind the entries of a row of claims differ from each other and from those that were
claimed before. -/
lemma nodup_behind_claimNames {names : List String} :
    ((ctx.claimNames claimed names).1.map ctx.behind).Nodup ∧
      ∀ e ∈ (ctx.claimNames claimed names).1, ctx.behind e ∉ claimed := by
  induction names generalizing claimed with
  | nil => exact ⟨List.nodup_nil, nofun⟩
  | cons name names ih =>
    rw [claimNames]
    cases result : ctx.claim? claimed name with
    | none => exact ih
    | some e =>
      obtain ⟨rfl, _, free, _⟩ := claim?_eq_some_iff.1 result
      obtain ⟨nodup, new⟩ := @ih (ctx.behind e :: claimed)
      constructor
      · apply List.nodup_cons.2
        refine ⟨?_, nodup⟩
        intro mem
        obtain ⟨e', listed, same⟩ := List.mem_map.1 mem
        exact new e' listed (same ▸ List.mem_cons_self)
      · intro e' mem
        cases mem with
        | head => exact free
        | tail _ mem =>
          intro old
          exact new e' mem (List.mem_cons_of_mem _ old)

/-- A row of claims claims nothing twice. -/
lemma nodup_claimNames {names : List String} (nodup : claimed.Nodup) :
    (ctx.claimNames claimed names).2.Nodup := by
  obtain ⟨nodup', new⟩ : ((ctx.claimNames claimed names).1.map ctx.behind).Nodup ∧
      ∀ e ∈ (ctx.claimNames claimed names).1, ctx.behind e ∉ claimed := nodup_behind_claimNames
  rw [claimNames_snd, List.nodup_append']
  refine ⟨List.nodup_reverse.2 nodup', nodup, fun name mem old => ?_⟩
  obtain ⟨e, listed, rfl⟩ := List.mem_map.1 (List.mem_reverse.1 mem)
  exact new e listed old

/-- Every entry of a row of claims has a reportable name of the row, with its tag. -/
lemma mem_claimNames {names : List String} {e : StructEntry}
    (mem : e ∈ (ctx.claimNames claimed names).1) :
    e.name ∈ names ∧ e.name ∈ ctx.reportableNames ∧ ctx.typeTags.get? e.name = some e.typeTag := by
  induction names generalizing claimed with
  | nil => cases mem
  | cons name names ih =>
    rw [claimNames] at mem
    cases result : ctx.claim? claimed name with
    | none =>
      rw [result] at mem
      obtain ⟨listed, h⟩ := ih mem
      exact ⟨List.mem_cons_of_mem name listed, h⟩
    | some e' =>
      rw [result] at mem
      cases mem with
      | head =>
        obtain ⟨rfl, reportable, _, tag⟩ := claim?_eq_some_iff.1 result
        exact ⟨List.mem_cons_self, reportable, tag⟩
      | tail _ mem =>
        obtain ⟨listed, h⟩ := ih mem
        exact ⟨List.mem_cons_of_mem name listed, h⟩

/-- A row of claims continues where the one before it has stopped. -/
lemma claimNames_append {names names' : List String} :
    ctx.claimNames claimed (names ++ names') =
      ((ctx.claimNames claimed names).1 ++
          (ctx.claimNames (ctx.claimNames claimed names).2 names').1,
        (ctx.claimNames (ctx.claimNames claimed names).2 names').2) := by
  induction names generalizing claimed with
  | nil => rfl
  | cons name names ih =>
    rw [List.cons_append, claimNames, claimNames]
    cases ctx.claim? claimed name with
    | none => exact ih
    | some e => simp only [ih, List.cons_append]

/-- The entries of requirers, one after the other. -/
def entries (requirers : List Requirer) : List StructEntry :=
  requirers.flatMap (·.structs)

section all
variable {requests : List (String × List String)}

/-- The claims of requirers are one row of claims. -/
lemma claimAll_eq :
    (entries (ctx.claimAll claimed requests).1, (ctx.claimAll claimed requests).2) =
      ctx.claimNames claimed (requests.flatMap (·.2)) := by
  induction requests generalizing claimed with
  | nil => rfl
  | cons request requests ih =>
    obtain ⟨name, required⟩ := request
    rw [List.flatMap_cons, claimNames_append, ← ih]
    rfl

/-- Rows of requests are claimed as if all their names stood in one row. -/
lemma entries_claimAll :
    entries (ctx.claimAll claimed requests).1 =
      (ctx.claimNames claimed (requests.flatMap (·.2))).1 := by
  rw [← claimAll_eq]

/-- Rows of requests take the same structs as if all their names stood in one row. -/
lemma claimed_claimAll :
    (ctx.claimAll claimed requests).2 = (ctx.claimNames claimed (requests.flatMap (·.2))).2 := by
  rw [← claimAll_eq]

/-- The claims of requirers add the structs behind their entries. -/
lemma claimAll_snd :
    (ctx.claimAll claimed requests).2 =
      ((entries (ctx.claimAll claimed requests).1).map ctx.behind).reverse ++ claimed := by
  rw [claimed_claimAll, entries_claimAll, claimNames_snd]

/-- No struct is taken twice. -/
lemma nodup_claimAll (nodup : claimed.Nodup) : (ctx.claimAll claimed requests).2.Nodup := by
  rw [claimed_claimAll]
  exact nodup_claimNames nodup

/-- No two entries stand for one struct, nor does one for a struct taken before. -/
lemma nodup_behind_claimAll :
    ((entries (ctx.claimAll claimed requests).1).map ctx.behind).Nodup ∧
      ∀ e ∈ entries (ctx.claimAll claimed requests).1, ctx.behind e ∉ claimed := by
  rw [entries_claimAll]
  exact nodup_behind_claimNames

/-- Every entry of requirers has a reportable name that is required, with its tag. -/
lemma mem_claimAll {e : StructEntry} (mem : e ∈ entries (ctx.claimAll claimed requests).1) :
    e.name ∈ requests.flatMap (·.2) ∧ e.name ∈ ctx.reportableNames ∧
      ctx.typeTags.get? e.name = some e.typeTag := by
  rw [entries_claimAll] at mem
  exact mem_claimNames mem

end all

end ClaimContext

open ClaimContext (entries)

/-- Requirers without entries may be dropped. -/
lemma entries_filter {requirers : List Requirer} :
    entries (requirers.filter (!·.structs.isEmpty)) = entries requirers := by
  apply flatMap_filter_of_nil
  intro r empty
  exact List.isEmpty_iff.1 (by simpa using empty)

/-- Merging requirers of one name keeps the entries. -/
lemma entries_mergeByName {requirers : List Requirer} :
    (entries (mergeByName requirers)).Perm (entries requirers) := by
  have grouped : ((distinctOn Requirer.name requirers).flatMap
      fun r => requirers.filter (Requirer.name · == r.name)).Perm requirers :=
    flatMap_filter_distinctOn
  simpa [entries, mergeByName, List.flatMap_map, List.flatMap_assoc] using
    grouped.flatMap_right (·.structs)

/-- The entry of a struct in its core group. -/
def coreEntry (core : String × CoreVersion) : StructEntry :=
  ⟨core.1, core.2.typeTag⟩

/-- Core groups hold the entries of all core structs. -/
lemma coreGroups_perm {core : List (String × CoreVersion)} :
    ((collectCoreGroups core).flatMap (·.structs)).Perm (core.map coreEntry) := by
  have grouped : ((distinct (core.map (·.2.digits))).flatMap
      fun digits => core.filter (·.2.digits == digits)).Perm core :=
    flatMap_filter_distinct
  apply ((List.mergeSort_perm _ _).flatMap_right _).trans
  rw [List.flatMap_map]
  have entered := grouped.map coreEntry
  rw [List.map_flatMap] at entered
  exact entered

end CapabilityRegistry.Mappings
