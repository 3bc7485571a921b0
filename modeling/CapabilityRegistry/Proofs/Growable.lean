import CapabilityRegistry.Growable
import CapabilityRegistry.Proofs.Distinct
import CapabilityRegistry.Proofs.Success
import CapabilityRegistry.Proofs.ValueRange

/-!
# Owners of the tracked enum

What a collected enum lists under its owners. Grouping by owners loses nothing and adds nothing
(`lists_iff`), so that an owner lists exactly what the enum declares and what the entries of features and
extensions add. `owners_of_collect` says how the values of an owner are laid out, and that the value of an
entry with an offset is the one of its place, in integers without bounds.
-/

namespace CapabilityRegistry

/-- The enum has an owner of this name, with the pair of a name and its value. -/
def GrowableEnum.Lists (g : GrowableEnum) (name : String) (pair : String × Int) : Prop :=
  ∃ o ∈ g.owners, o.owner = name ∧ pair ∈ o.values

namespace Growable

/-- Lower values come first, and of equal values the one with the greater name. -/
def Precedes (a b : String × Int) : Prop :=
  a.2 < b.2 ∨ a.2 = b.2 ∧ b.1 < a.1

/-- The layout of an owner. Its values are strictly ordered, and its ranges cut them as they stand into
segments, so that the integers in the ranges are the values one after the other. -/
structure LaidOut (o : GrowableOwner) : Prop where
  nonempty : o.values ≠ []
  distinct : o.values.Nodup
  ordered : o.values.Pairwise Precedes
  ranges : ∃ segments : List ValueRange.Segment, o.ranges = segments.map (·.range) ∧
    segments.flatMap (·.members) = o.values ∧ segments.flatMap (·.interval) = o.values.map (·.2)

/-! ## The values of one owner -/

section owner
variable {name : String} {values : List (String × Int)} {pair : String × Int}

/-- Ordering loses no value. -/
lemma orderValues_perm : (orderValues values).Perm values :=
  List.mergeSort_perm values _

/-- Values are ordered by number, those of one number by name from the end. -/
lemma pairwise_orderValues :
    (orderValues values).Pairwise fun a b => a.2 < b.2 ∨ a.2 = b.2 ∧ b.1 ≤ a.1 := by
  let le : String × Int → String × Int → Bool := fun a b => a.2 < b.2 || (a.2 == b.2 && b.1 ≤ a.1)
  have le_iff : ∀ a b, le a b = true ↔ a.2 < b.2 ∨ a.2 = b.2 ∧ b.1 ≤ a.1 := by
    intro a b
    simp [le]
  have trans : ∀ a b c, le a b = true → le b c = true → le a c = true := by
    intro a b c ab bc
    rw [le_iff] at ab bc ⊢
    obtain ab | ⟨ab, ba⟩ := ab
    · exact .inl (by omega)
    · obtain bc | ⟨bc, cb⟩ := bc
      · exact .inl (by omega)
      · exact .inr ⟨ab.trans bc, String.le_trans cb ba⟩
  have total : ∀ a b, (le a b || le b a) = true := by
    intro a b
    rw [Bool.or_eq_true, le_iff, le_iff]
    obtain less | same | greater := Int.lt_trichotomy a.2 b.2
    · exact .inl (.inl less)
    · obtain less | greater := String.le_total b.1 a.1
      · exact .inl (.inr ⟨same, less⟩)
      · exact .inr (.inr ⟨same.symm, greater⟩)
    · exact .inr (.inl greater)
  exact (List.pairwise_mergeSort trans total values).imp (le_iff _ _).1

/-- An owner holds the values that it is made of. -/
lemma mem_values_owner : pair ∈ (owner name values).values ↔ pair ∈ values := by
  show pair ∈ orderValues (distinct values) ↔ pair ∈ values
  rw [orderValues_perm.mem_iff, mem_distinct]

/-- The values of an owner are strictly ordered. -/
lemma pairwise_precedes_owner : (owner name values).values.Pairwise Precedes := by
  have nodup : (orderValues (distinct values)).Nodup := orderValues_perm.nodup_iff.2 nodup_distinct
  refine (pairwise_orderValues.and nodup).imp fun {a b} h => ?_
  obtain ⟨less | ⟨same, le⟩, differ⟩ := h
  · exact .inl less
  · refine .inr ⟨same, ?_⟩
    apply Std.lt_of_le_of_ne le
    intro names
    exact differ (Prod.ext names.symm same)

/-- The rows of an owner are laid out, if it has any values. -/
lemma laidOut_owner (nonempty : values ≠ []) : LaidOut (owner name values) := by
  have ascending : (owner name values).values.Pairwise fun a b => a.2 ≤ b.2 := by
    refine pairwise_precedes_owner.imp fun {a b} h => ?_
    obtain less | ⟨same, _⟩ := h
    · exact Int.le_of_lt less
    · exact Int.le_of_eq same
  obtain ⟨segments, factors, ranges⟩ := ValueRange.exists_factors (owner name values).values
  -- what ascends already is its own stably sorted list
  have members : segments.flatMap (·.members) = (owner name values).values :=
    factors.sorted.unique ⟨.rfl, ascending, fun _ => rfl⟩
  constructor
  case nonempty =>
    obtain ⟨pair, mem⟩ := List.exists_mem_of_ne_nil _ nonempty
    exact List.ne_nil_of_mem (mem_values_owner.2 mem)
  case distinct => exact orderValues_perm.nodup_iff.2 nodup_distinct
  case ordered => exact pairwise_precedes_owner
  case ranges =>
    refine ⟨segments, ranges, members, ?_⟩
    rw [← members, List.map_flatMap]
    exact congrArg segments.flatMap (funext ValueRange.Segment.interval_eq)

end owner

/-! ## All owners -/

section owners
variable {values : List (String × String × Int)} {name : String} {pair : String × Int}

/-- The values that are added under the name of an owner. -/
def valuesOf (values : List (String × String × Int)) (name : String) : List (String × Int) :=
  (values.filter (·.1 == name)).map (·.2)

/-- The values of an owner are those recorded under its name. -/
lemma mem_valuesOf : pair ∈ valuesOf values name ↔ (name, pair) ∈ values := by
  simp [valuesOf]

/-- Each name under which a value is added has one owner, with the values of that name. -/
lemma mem_owners_iff {o : GrowableOwner} :
    o ∈ owners values ↔ ∃ name, valuesOf values name ≠ [] ∧ o = owner name (valuesOf values name) := by
  simp only [owners, List.mem_map, List.mem_filter, Bool.not_eq_true', List.isEmpty_eq_false_iff]
  constructor
  · intro h
    obtain ⟨_, ⟨⟨name, _, rfl⟩, nonempty⟩, rfl⟩ := h
    exact ⟨name, nonempty, rfl⟩
  · intro h
    obtain ⟨name, nonempty, rfl⟩ := h
    obtain ⟨pair, mem⟩ := List.exists_mem_of_ne_nil _ nonempty
    have added : name ∈ values.map (·.1) := List.mem_map_of_mem (mem_valuesOf.1 mem)
    exact ⟨_, ⟨⟨name, mem_distinct.2 (List.mem_cons_of_mem _ added), rfl⟩, nonempty⟩, rfl⟩

/-- No owner is listed twice. -/
lemma nodup_owners : ((owners values).map (·.owner)).Nodup := by
  let names := distinct (baseVersionOwner :: values.map (·.1))
  let grouped := names.map fun name => (name, valuesOf values name)
  have listed : grouped.map (·.1) = names := by
    rw [List.map_map]
    exact List.map_id names
  have kept : ((owners values).map (·.owner)).Sublist (grouped.map (·.1)) := by
    rw [owners, List.map_map]
    exact List.filter_sublist.map _
  rw [listed] at kept
  exact nodup_distinct.sublist kept

/-- Grouping by owners loses nothing and adds nothing. -/
lemma exists_mem_owners_iff :
    (∃ o ∈ owners values, o.owner = name ∧ pair ∈ o.values) ↔ (name, pair) ∈ values := by
  constructor
  · intro h
    obtain ⟨o, listed, same, mem⟩ := h
    obtain ⟨other, _, rfl⟩ := mem_owners_iff.1 listed
    obtain rfl : other = name := same
    exact mem_valuesOf.1 (mem_values_owner.1 mem)
  · intro mem
    have held : pair ∈ valuesOf values name := mem_valuesOf.2 mem
    refine ⟨_, mem_owners_iff.2 ⟨name, List.ne_nil_of_mem held, rfl⟩, rfl, ?_⟩
    exact mem_values_owner.2 held

end owners

/-! ## What is collected -/

variable {reg : Registry} {rules : Rules} {g : GrowableEnum} {d : EnumDecl} {found : List Addition}

/-- The values that the base version owns. -/
def ownValues (d : EnumDecl) : List (String × Int) :=
  (baseValues d).filter (·.2 ≠ 0)

/-- Where the parts of a tracked enum come from. -/
structure Collected (reg : Registry) (rules : Rules) (d : EnumDecl) (found : List Addition)
    (g : GrowableEnum) : Prop where
  declared : reg.enumDecl? rules.growableEnum = some d
  additions : additions reg d = .ok found
  name : g.name = rules.growableEnum
  added : g.added = distinctOn (·.1) ((found.filter (!·.isAlias)).map Addition.pair)
  owners : g.owners =
    owners ((ownValues d).map (baseVersionOwner, ·) ++ found.map fun a => (a.owner, a.pair))

/-- A tracked enum that there is has been made so. -/
theorem collected_of_collect (done : collect reg rules = .ok (some g)) :
    ∃ d found, Collected reg rules d found g := by
  unfold collect at done
  cases declared : reg.enumDecl? rules.growableEnum with
  | none =>
    rw [declared] at done
    cases done
  | some d =>
    rw [declared] at done
    obtain ⟨found, added, done⟩ := bind_eq_ok.1 done
    cases done
    exact ⟨d, found, declared, added, rfl, rfl, rfl⟩

/-- The tracked enum is collected where it is declared and all its entries can be read. -/
lemma collect_of_additions (declared : reg.enumDecl? rules.growableEnum = some d)
    (added : additions reg d = .ok found) :
    ∃ g, collect reg rules = .ok (some g) ∧ Collected reg rules d found g := by
  unfold collect
  rw [declared]
  exact ⟨_, bind_eq_ok.2 ⟨found, added, rfl⟩, ⟨declared, added, rfl, rfl, rfl⟩⟩

/-- A declaration that is found under a name has that name. -/
lemma name_of_enumDecl? {name : String} (declared : reg.enumDecl? name = some d) : d.name = name := by
  simpa using List.find?_some declared

/-- The declared enum is the tracked one. -/
lemma Collected.name_eq (collected : Collected reg rules d found g) : d.name = rules.growableEnum :=
  name_of_enumDecl? collected.declared

/-- An owner lists the values of the enum, if it is the base version, and what has been found for it. -/
lemma Collected.lists_iff (collected : Collected reg rules d found g) {owner : String}
    {pair : String × Int} :
    g.Lists owner pair ↔
      owner = baseVersionOwner ∧ pair ∈ ownValues d ∨ ∃ a ∈ found, a.owner = owner ∧ a.pair = pair := by
  rw [GrowableEnum.Lists, collected.owners, exists_mem_owners_iff, List.mem_append, List.mem_map,
    List.mem_map]
  simp only [Prod.mk.injEq]
  apply or_congr_left
  constructor
  · intro h
    obtain ⟨_, mem, rfl, rfl⟩ := h
    exact ⟨rfl, mem⟩
  · intro h
    obtain ⟨rfl, mem⟩ := h
    exact ⟨pair, mem, rfl, rfl⟩

/-- The entries of features for an enum are those that they require for it. -/
lemma mem_featureEntries {enumName owner : String} {e : EnumExtension} :
    (owner, e) ∈ featureEntries reg enumName ↔
      ∃ f ∈ reg.features, f.name = owner ∧ e ∈ f.requires.enums ∧ e.enumName = enumName := by
  simp only [featureEntries, List.mem_flatMap, List.mem_map, List.mem_filter, beq_iff_eq,
    Prod.mk.injEq]
  constructor
  · intro h
    obtain ⟨f, listed, _, ⟨required, tracked⟩, rfl, rfl⟩ := h
    exact ⟨f, listed, rfl, required, tracked⟩
  · intro h
    obtain ⟨f, listed, rfl, required, tracked⟩ := h
    exact ⟨f, listed, e, ⟨required, tracked⟩, rfl, rfl⟩

/-- The entries of extensions for an enum are those that extensions require for it, unless these are disabled.
-/
lemma mem_extensionEntries {enumName : String} {x : Extension} {e : EnumExtension} :
    (x, e) ∈ extensionEntries reg enumName ↔
      x ∈ reg.extensions ∧ x.supported ≠ "disabled" ∧ e ∈ x.requires.enums ∧ e.enumName = enumName := by
  simp only [extensionEntries, List.mem_flatMap, List.mem_map, List.mem_filter, beq_iff_eq, bne_iff_ne,
    Prod.mk.injEq]
  constructor
  · intro h
    obtain ⟨x, ⟨listed, enabled⟩, _, ⟨required, tracked⟩, rfl, rfl⟩ := h
    exact ⟨listed, enabled, required, tracked⟩
  · intro h
    obtain ⟨listed, enabled, required, tracked⟩ := h
    exact ⟨x, ⟨listed, enabled⟩, e, ⟨required, tracked⟩, rfl, rfl⟩

end Growable

end CapabilityRegistry
