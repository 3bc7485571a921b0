import CapabilityRegistry.NameTable
import CapabilityRegistry.Proofs.Distinct
import Mathlib.Data.List.Sort
import Mathlib.Tactic.Lemma

/-!
# Answers of tables

A table answers with the text that was put under a name last. Two tables with the same answers are the
same table (`ext_get?`), so that the order of insertion shows only where a name is given two texts.
-/

namespace CapabilityRegistry.NameTable

variable {t t' : NameTable} {name text x : String} {entries : List (String × String)}

/-- An inserted entry is found under its name. -/
lemma lookup_insertEntry_self : (insertEntry name text entries).lookup name = some text := by
  induction entries with
  | nil => exact List.lookup_cons_self
  | cons e rest ih =>
    obtain ⟨other, held⟩ := e
    unfold insertEntry
    split
    next => exact List.lookup_cons_self
    next =>
      split
      next => exact List.lookup_cons_self
      next differ => rw [List.lookup_cons, beq_false_of_ne differ, ih]

/-- An inserted entry changes nothing under other names. -/
lemma lookup_insertEntry_of_ne (differ : x ≠ name) :
    (insertEntry name text entries).lookup x = entries.lookup x := by
  have apart : (x == name) = false := beq_false_of_ne differ
  induction entries with
  | nil => rw [insertEntry, List.lookup_cons, apart]
  | cons e rest ih =>
    obtain ⟨other, held⟩ := e
    unfold insertEntry
    split
    next => rw [List.lookup_cons, apart]
    next =>
      split
      next same =>
        subst same
        rw [List.lookup_cons, List.lookup_cons, apart]
      next => rw [List.lookup_cons, List.lookup_cons, ih]

/-- A table has the text that was put in under a name. -/
lemma get?_insert_self : (t.insert name text).get? name = some text :=
  lookup_insertEntry_self

/-- A table has what it had before under names other than the one that was put in. -/
lemma get?_insert_of_ne (differ : x ≠ name) : (t.insert name text).get? x = t.get? x :=
  lookup_insertEntry_of_ne differ

/-- Of the entries that are put into a table one after the other the last one of a name counts. -/
lemma get?_foldl_insert :
    (entries.foldl (fun t (name, text) => t.insert name text) t).get? x =
      (entries.reverse.lookup x).or (t.get? x) := by
  induction entries generalizing t with
  | nil => rfl
  | cons e rest ih =>
    obtain ⟨name, text⟩ := e
    rw [List.foldl_cons, ih, List.reverse_cons, List.lookup_append, Option.or_assoc]
    by_cases same : x = name
    · subst same
      rw [get?_insert_self, List.lookup_cons_self, Option.some_or]
    · rw [get?_insert_of_ne same, List.lookup_cons, beq_false_of_ne same]
      rfl

/-- A table holds for each name the text that was put into it last. -/
lemma get?_ofList : (ofList entries).get? name = entries.reverse.lookup name :=
  get?_foldl_insert.trans Option.or_none

/-- A table holds no text but those that were put into it. -/
lemma mem_of_get?_ofList (found : (ofList entries).get? name = some text) : (name, text) ∈ entries :=
  List.mem_reverse.1 (mem_of_lookup (get?_ofList.symm.trans found))

/-- A table has some text for each name that was given one. -/
lemma exists_get?_ofList (mem : (name, text) ∈ entries) :
    ∃ text', (ofList entries).get? name = some text' := by
  rw [get?_ofList]
  exact exists_lookup_of_mem (List.mem_reverse.2 mem)

/-- A table holds the texts that were put into it, where each name has one only. -/
lemma get?_ofList_eq_some_iff (functional : Functional entries) :
    (ofList entries).get? name = some text ↔ (name, text) ∈ entries := by
  refine ⟨mem_of_get?_ofList, fun mem => ?_⟩
  obtain ⟨text', found⟩ := exists_get?_ofList mem
  rw [found, functional name text text' mem (mem_of_get?_ofList found)]

/-- A table holds all texts that were put into it exactly where each name has one only. -/
lemma functional_iff_get?_ofList :
    Functional entries ↔ ∀ name text, (name, text) ∈ entries → (ofList entries).get? name = some text := by
  constructor
  · intro functional name text
    exact (get?_ofList_eq_some_iff functional).2
  · intro all name text text' mem mem'
    have same : some text = some text' := (all name text mem).symm.trans (all name text' mem')
    exact Option.some.inj same

/-- Two tables with the same answers are the same table. -/
theorem ext_get? (same : ∀ name, t.get? name = t'.get? name) : t = t' := by
  have functional : ∀ t : NameTable, Functional t.entries :=
    fun t => functional_of_nodup (t.sorted.imp fun less => Std.ne_of_lt less)
  have members : ∀ e, e ∈ t.entries ↔ e ∈ t'.entries := by
    intro e
    obtain ⟨name, text⟩ := e
    rw [← (functional t).lookup_eq_some_iff, ← (functional t').lookup_eq_some_iff]
    exact Eq.congr_left (same name)
  -- both lists ascend strictly, so that their members tell their order
  have entries : t.entries = t'.entries :=
    (List.pairwise_map.1 t.sorted).eq_of_mem_iff (List.pairwise_map.1 t'.sorted) members
  cases t
  cases t'
  cases entries
  rfl

end CapabilityRegistry.NameTable
