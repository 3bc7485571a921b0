import CapabilityRegistry.Distinct
import Mathlib.Data.List.Nodup
import Mathlib.Data.List.Perm.Basic
import Mathlib.Tactic.Lemma

/-!
# Collecting by distinct keys

Lists collected from the entries of a list. The entries that `distinctOn` keeps have distinct keys, and
no key is lost, so that what is collected key by key is the list itself, in another order
(`flatMap_filter_distinct`, `flatMap_filter_distinctOn`). Where keys have one value each, looking one up
is membership (`Functional.lookup_eq_some_iff`).
-/

namespace CapabilityRegistry

section collecting
variable {α β γ : Type}

/-- What has nothing to collect may be left out. -/
lemma flatMap_filter_of_nil {f : α → List γ} {p : α → Bool} {l : List α}
    (empty : ∀ a, p a = false → f a = []) : (l.filter p).flatMap f = l.flatMap f := by
  induction l with
  | nil => rfl
  | cons a l ih =>
    rw [List.filter_cons, List.flatMap_cons]
    split
    next => rw [List.flatMap_cons, ih]
    next out => rw [empty a (Bool.eq_false_iff.2 out), ih, List.nil_append]

/-- Items that are listed under a condition are those of the filtered list. -/
lemma flatMap_ite_eq_map_filter {f : α → γ} {p : α → Bool} {l : List α} :
    (l.flatMap fun a => if p a then [f a] else []) = (l.filter p).map f := by
  induction l with
  | nil => rfl
  | cons a l ih =>
    rw [List.flatMap_cons, List.filter_cons, ih]
    split
    · rfl
    · rfl

/-- Collecting the fitting entries key by key, or the fitting keys entry by entry. -/
lemma flatMap_filter_comm {fits : α → β → Bool} {f : α → β → γ} {keys : List β}
    {l : List α} :
    (keys.flatMap fun k => (l.filter (fits · k)).map (f · k)).Perm
      (l.flatMap fun a => (keys.filter (fits a)).map (f a)) := by
  induction l with
  | nil => simp
  | cons a l ih =>
    have each : (fun k => ((a :: l).filter (fits · k)).map (f · k)) =
        fun k => (if fits a k then [f a k] else []) ++ (l.filter (fits · k)).map (f · k) := by
      funext k
      cases h : fits a k <;> simp [h]
    rw [each, List.flatMap_cons, ← flatMap_ite_eq_map_filter]
    exact (List.flatMap_append_perm _ _ _).symm.trans (ih.append_left _)

/-- Entries made from some of a list keep what both have, in the order of the list. -/
lemma map_filterMap_sublist {f : α → Option β} {g : β → γ} {h : α → γ} {l : List α}
    (keeps : ∀ a b, f a = some b → g b = h a) : ((l.filterMap f).map g).Sublist (l.map h) := by
  induction l with
  | nil => exact .slnil
  | cons a l ih =>
    rw [List.filterMap_cons, List.map_cons]
    cases made : f a with
    | none => exact ih.cons (h a)
    | some b =>
      rw [← keeps a b made]
      exact ih.cons_cons (g b)

/-- Collecting something for each entry gives at least as much as there are entries. -/
lemma length_le_length_flatMap {f : α → List β} {l : List α} (some : ∀ a ∈ l, f a ≠ []) :
    l.length ≤ (l.flatMap f).length := by
  induction l with
  | nil => exact Nat.le_refl 0
  | cons a l ih =>
    have first : 0 < (f a).length := List.length_pos_iff.2 (some a List.mem_cons_self)
    have rest := ih fun b mem => some b (List.mem_cons_of_mem a mem)
    rw [List.flatMap_cons, List.length_append, List.length_cons]
    omega

end collecting

variable {α β : Type} [DecidableEq β] {key : α → β}

/-- The collected keys are all new ones. -/
lemma mem_map_distinctBeyond {seen : List β} {l : List α} {k : β} :
    k ∈ (distinctBeyond key seen l).map key ↔ k ∉ seen ∧ k ∈ l.map key := by
  induction l generalizing seen with
  | nil => simp [distinctBeyond]
  | cons a l ih =>
    unfold distinctBeyond
    split
    next old =>
      rw [ih, List.map_cons, List.mem_cons]
      apply and_congr_right
      intro new
      constructor
      · exact .inr
      · intro h
        apply h.resolve_left
        rintro rfl
        exact new old
    next new =>
      rw [List.map_cons, List.mem_cons, ih, List.map_cons, List.mem_cons, List.mem_cons]
      constructor
      · intro given
        rcases given with rfl | ⟨h, mem⟩
        · exact ⟨new, .inl rfl⟩
        · exact ⟨fun old => h (.inr old), .inr mem⟩
      · intro given
        obtain ⟨h, rfl | mem⟩ := given
        · exact .inl rfl
        · by_cases same : k = key a
          · exact .inl same
          · exact .inr ⟨by simp [same, h], mem⟩

/-- No key is collected twice. -/
lemma nodup_map_distinctBeyond {seen : List β} {l : List α} :
    ((distinctBeyond key seen l).map key).Nodup := by
  induction l generalizing seen with
  | nil => exact List.nodup_nil
  | cons a l ih =>
    unfold distinctBeyond
    split
    · exact ih
    · apply List.nodup_cons.2
      refine ⟨?_, ih⟩
      intro mem
      exact (mem_map_distinctBeyond.1 mem).1 List.mem_cons_self

/-- What is collected keeps its order. -/
lemma distinctBeyond_sublist {seen : List β} {l : List α} :
    (distinctBeyond key seen l).Sublist l := by
  induction l generalizing seen with
  | nil => exact .slnil
  | cons a l ih =>
    unfold distinctBeyond
    split
    · exact ih.cons a
    · exact ih.cons_cons a

/-- Only items of the list are collected. -/
lemma distinctOn_subset {l : List α} : distinctOn key l ⊆ l :=
  distinctBeyond_sublist.subset

/-- The keys that are kept are those of the list. -/
lemma mem_map_distinctOn {l : List α} {k : β} :
    k ∈ (distinctOn key l).map key ↔ k ∈ l.map key := by
  rw [distinctOn, mem_map_distinctBeyond, and_iff_right List.not_mem_nil]

/-- No key is collected twice, whatever the list is. -/
lemma nodup_map_distinctOn {l : List α} : ((distinctOn key l).map key).Nodup :=
  nodup_map_distinctBeyond

/-- An item is collected where it is the first one of a new key. -/
lemma mem_distinctBeyond_iff {seen : List β} {l : List α} {a : α} :
    a ∈ distinctBeyond key seen l ↔ key a ∉ seen ∧ l.find? (key · == key a) = some a := by
  induction l generalizing seen with
  | nil => simp [distinctBeyond]
  | cons b l ih =>
    unfold distinctBeyond
    rw [List.find?_cons]
    by_cases same : key b = key a
    · rw [beq_iff_eq.2 same]
      split
      next old =>
        rw [ih, ← same]
        exact ⟨fun h => (h.1 old).elim, fun h => (h.1 old).elim⟩
      next new =>
        rw [List.mem_cons, ih, ← same]
        constructor
        · intro h
          obtain rfl | ⟨h, _⟩ := h
          · exact ⟨new, rfl⟩
          · exact (h List.mem_cons_self).elim
        · intro h
          exact .inl (Option.some.inj h.2).symm
    · rw [beq_false_of_ne same]
      split
      next old => exact ih
      next new =>
        rw [List.mem_cons, ih, List.mem_cons, not_or]
        constructor
        · intro h
          obtain rfl | ⟨⟨_, h⟩, first⟩ := h
          · exact (same rfl).elim
          · exact ⟨h, first⟩
        · intro h
          exact .inr ⟨⟨fun back => same back.symm, h.1⟩, h.2⟩

/-- The entry that is kept is the first one of its key. -/
lemma mem_distinctOn_iff {l : List α} {a : α} :
    a ∈ distinctOn key l ↔ l.find? (key · == key a) = some a := by
  rw [distinctOn, mem_distinctBeyond_iff, and_iff_right List.not_mem_nil]

/-- An entry that is kept stands in the list before all entries with the key of one that is kept behind it. -/
lemma pairwise_distinctBeyond {seen : List β} {l : List α} :
    (distinctBeyond key seen l).Pairwise fun a b =>
      ∃ before, before ++ [a] <+: l ∧ ∀ c ∈ before ++ [a], key c ≠ key b := by
  induction l generalizing seen with
  | nil => exact .nil
  | cons first l ih =>
    -- what stands in the rest stands behind an entry whose key is not kept again
    have rest {seen : List β} (old : key first ∈ seen) : (distinctBeyond key seen l).Pairwise fun a b =>
        ∃ before, before ++ [a] <+: first :: l ∧ ∀ c ∈ before ++ [a], key c ≠ key b := by
      refine ih.imp_of_mem fun {a b} _ kept h => ?_
      obtain ⟨before, start, others⟩ := h
      refine ⟨first :: before, List.prefix_cons_inj first |>.2 start, List.forall_mem_cons.2 ⟨?_, others⟩⟩
      intro same
      exact (mem_distinctBeyond_iff.1 kept).1 (same ▸ old)
    unfold distinctBeyond
    split
    next old => exact rest old
    next new =>
      refine List.pairwise_cons.2 ⟨fun b kept => ?_, rest List.mem_cons_self⟩
      refine ⟨[], ⟨l, rfl⟩, List.forall_mem_singleton.2 fun same => ?_⟩
      exact (mem_distinctBeyond_iff.1 kept).1 (same ▸ List.mem_cons_self)

/-- An item that is collected before another one comes before all items of the other key. -/
lemma pairwise_distinctOn {l : List α} :
    (distinctOn key l).Pairwise fun a b =>
      ∃ before, before ++ [a] <+: l ∧ ∀ c ∈ before ++ [a], key c ≠ key b :=
  pairwise_distinctBeyond

/-- Where different entries have different keys, all are kept. -/
lemma mem_distinctOn {l : List α} (inj : ∀ a ∈ l, ∀ b ∈ l, key a = key b → a = b) {a : α}
    (mem : a ∈ l) : a ∈ distinctOn key l := by
  have held : key a ∈ (distinctOn key l).map key :=
    mem_map_distinctOn.2 (List.mem_map_of_mem mem)
  obtain ⟨b, kept, same⟩ := List.mem_map.1 held
  rwa [← inj b (distinctOn_subset kept) a mem same]

/-- The distinct items of a list are its items. -/
lemma mem_distinct {l : List β} {k : β} : k ∈ distinct l ↔ k ∈ l := by
  have h : k ∈ (distinctOn id l).map id ↔ k ∈ l.map id := mem_map_distinctOn
  simpa [distinct] using h

/-- The distinct items of a list are there once each. -/
lemma nodup_distinct {l : List β} : (distinct l).Nodup := by
  have h : ((distinctOn id l).map id).Nodup := nodup_map_distinctOn
  simpa [distinct] using h

/-- The entries of a list, collected key by key. -/
lemma flatMap_filter_perm {keys : List β} (nodup : keys.Nodup) {l : List α}
    (covers : ∀ a ∈ l, key a ∈ keys) : (keys.flatMap fun k => l.filter (key · == k)).Perm l := by
  induction keys generalizing l with
  | nil =>
    cases l with
    | nil => exact .nil
    | cons a l => cases covers a List.mem_cons_self
  | cons k keys ih =>
    obtain ⟨new, nodup'⟩ := List.nodup_cons.1 nodup
    let rest := l.filter (!key · == k)
    have covers' : ∀ a ∈ rest, key a ∈ keys := by
      intro a mem
      obtain ⟨mem, differ⟩ := List.mem_filter.1 mem
      exact (List.mem_cons.1 (covers a mem)).resolve_left (by simpa using differ)
    have same : (keys.flatMap fun k => rest.filter (key · == k)) =
        keys.flatMap fun k => l.filter (key · == k) := by
      apply List.flatMap_congr
      intro k' mem
      rw [List.filter_filter]
      apply List.filter_congr
      intro a _
      have differ : k' ≠ k := by
        rintro rfl
        exact new mem
      by_cases h : key a = k' <;> simp [h, differ]
    rw [List.flatMap_cons, ← same]
    exact ((ih nodup' covers').append_left _).trans (List.filter_append_perm _ l)

/-- A list is made up of the groups of its distinct keys. -/
lemma flatMap_filter_distinct {l : List α} :
    ((distinct (l.map key)).flatMap fun k => l.filter (key · == k)).Perm l :=
  flatMap_filter_perm nodup_distinct fun _ mem => mem_distinct.2 (List.mem_map_of_mem mem)

/-- A list is made up of the groups of its items with distinct keys. -/
lemma flatMap_filter_distinctOn {l : List α} :
    ((distinctOn key l).flatMap fun a => l.filter (key · == key a)).Perm l := by
  have h : (((distinctOn key l).map key).flatMap fun k => l.filter (key · == k)).Perm l :=
    flatMap_filter_perm nodup_map_distinctOn fun a mem =>
      mem_map_distinctOn.2 (List.mem_map_of_mem mem)
  simpa [List.flatMap_map] using h

/-- Among distinct keys each one has its only entry. -/
lemma filter_eq_singleton {l : List α} (nodup : (l.map key).Nodup) {a : α} (mem : a ∈ l) :
    l.filter (key · == key a) = [a] := by
  induction l with
  | nil => cases mem
  | cons b l ih =>
    obtain ⟨new, nodup'⟩ := List.nodup_cons.1 nodup
    cases mem with
    | head =>
      have others : l.filter (key · == key a) = [] := by
        apply List.filter_eq_nil_iff.2
        intro c mem same
        apply new
        exact beq_iff_eq.1 same ▸ List.mem_map_of_mem mem
      rw [List.filter_cons, if_pos (beq_self_eq_true _), others]
    | tail _ mem =>
      have differ : ¬ (key b == key a) = true := by
        intro same
        exact new (beq_iff_eq.1 same ▸ List.mem_map_of_mem mem)
      rw [List.filter_cons, if_neg differ, ih nodup' mem]

section lookup
variable {γ : Type} {entries : List (String × γ)} {name : String} {value : γ}

/-- What is found under a name is an entry of it. -/
lemma mem_of_lookup (found : entries.lookup name = some value) : (name, value) ∈ entries := by
  obtain ⟨before, after, eq, _⟩ := List.lookup_eq_some_iff.1 found
  rw [eq]
  exact List.mem_append_right _ List.mem_cons_self

/-- Under the name of an entry something is found, if not that entry. -/
lemma exists_lookup_of_mem (mem : (name, value) ∈ entries) :
    ∃ value', entries.lookup name = some value' := by
  cases found : entries.lookup name with
  | none =>
    have absent := List.lookup_eq_none_iff.1 found (name, value) mem
    simp at absent
  | some value' => exact ⟨value', rfl⟩

/-- Each name has one value only. -/
def Functional (entries : List (String × γ)) : Prop :=
  ∀ name value value', (name, value) ∈ entries → (name, value') ∈ entries → value = value'

/-- Entries with distinct names have one value for each. -/
lemma functional_of_nodup (nodup : (entries.map (·.1)).Nodup) : Functional entries := by
  intro name value value' mem mem'
  cases List.inj_on_of_nodup_map nodup mem mem' rfl
  rfl

/-- Where each name has one value, looking a name up is membership. -/
lemma Functional.lookup_eq_some_iff (functional : Functional entries) :
    entries.lookup name = some value ↔ (name, value) ∈ entries := by
  refine ⟨mem_of_lookup, fun mem => ?_⟩
  obtain ⟨value', found⟩ := exists_lookup_of_mem mem
  rw [found, functional name value value' mem (mem_of_lookup found)]

end lookup

end CapabilityRegistry
