import CapabilityRegistry.Mappings
import CapabilityRegistry.Proofs.First
import CapabilityRegistry.Proofs.Growable.Entries
import CapabilityRegistry.Proofs.Numeral

/-!
# Faulty entries

Which entries cannot extend the tracked enum. Whether an entry is faulty depends on the entry and its owner
alone (`ofFeatureEntry_eq_error_iff`, `ofExtensionEntry_eq_error_iff`): a place is out of range as soon as one
step towards its value is (`extensionValue?_eq_none_iff`), and an entry that stands for a name without a value
is no fault. So the error of a build is that of the first faulty entry, if there is one
(`build_eq_error_iff`).
-/

namespace CapabilityRegistry.Growable

variable {reg : Registry} {rules : Rules} {d : EnumDecl} {e : EnumExtension} {x : Extension}
  {owner enumName : String} {extnumber offset : Int} {negative : Bool} {known base : Known} {found : List Addition}
  {err : InvalidEntry}

/-! ## Places out of range -/

/-- The steps towards the value of a place, in integers without bounds. -/
def placeSteps (extnumber offset : Int) (negative : Bool) : List Int :=
  let block := extnumber - 1
  let start := block * 1000
  let first := start + 1000000000
  [block, start, first, first + offset, placeValue extnumber offset negative]

/-- Some step towards the value of a place needs more than 64 bits with sign. -/
def OutOfRange (extnumber offset : Int) (negative : Bool) : Prop :=
  ∃ step ∈ placeSteps extnumber offset negative, step < -2 ^ 63 ∨ 2 ^ 63 ≤ step

/-- The check stops numbers that do not fit in 64 bits. -/
lemma checked_eq_none_iff {n : Int} : checked n = none ↔ n < -2 ^ 63 ∨ 2 ^ 63 ≤ n := by
  unfold checked
  split
  next fits =>
    rw [Numeral.fitsInt64_iff] at fits
    constructor
    · nofun
    · omega
  next leaves =>
    rw [Numeral.fitsInt64_iff] at leaves
    refine ⟨fun _ => ?_, fun _ => rfl⟩
    omega

/-- What follows a checked step is without a result if the step is. -/
lemma checked_bind_eq_none_iff {n : Int} {f : Int → Option Int} :
    (checked n).bind f = none ↔ (n < -2 ^ 63 ∨ 2 ^ 63 ≤ n) ∨ f n = none := by
  rw [← checked_eq_none_iff]
  cases kept : checked n with
  | none => exact ⟨fun _ => .inl rfl, fun _ => rfl⟩
  | some value =>
    obtain ⟨rfl, _⟩ := checked_eq_some kept
    exact ⟨.inr, fun none => none.resolve_left nofun⟩

/-- The value of a place is missing where it is out of range. -/
lemma extensionValue?_eq_none_iff :
    extensionValue? extnumber offset negative = none ↔ OutOfRange extnumber offset negative := by
  simp only [OutOfRange, placeSteps, List.exists_mem_cons_iff, List.not_mem_nil, false_and, exists_false, or_false]
  refine checked_bind_eq_none_iff.trans (or_congr_right ?_)
  refine checked_bind_eq_none_iff.trans (or_congr_right ?_)
  refine checked_bind_eq_none_iff.trans (or_congr_right ?_)
  refine checked_bind_eq_none_iff.trans ?_
  unfold placeValue
  cases negative with
  | false =>
    rw [if_neg Bool.false_ne_true, if_neg Bool.false_ne_true]
    constructor
    · intro leaves
      exact .inl (leaves.resolve_right nofun)
    · intro leaves
      left
      omega
  | true =>
    rw [if_pos rfl, if_pos rfl, checked_eq_none_iff]
    apply or_congr_right
    omega

/-! ## Faulty entries -/

/-- An entry that extends an enum, listed by a feature or by an extension. -/
inductive Entry where
  | feature (owner : String) (e : EnumExtension)
  | extension (x : Extension) (e : EnumExtension)

/-- The entries that extend an enum in the order of the document: first those of features, then those of
extensions that are not disabled. -/
def entries (reg : Registry) (enumName : String) : List Entry :=
  (featureEntries reg enumName).map (fun (owner, e) => .feature owner e) ++
    (extensionEntries reg enumName).map fun (x, e) => .extension x e

/-- An entry cannot extend the enum, for the reason that is told of it. -/
inductive Entry.Faulty : Entry → InvalidEntry → Prop where
  | missingPosition {owner : String} {e : EnumExtension} (missing : e.extnumber = none ∨ e.offset = none) :
      Faulty (.feature owner e) ⟨e.name, owner, .missingPosition⟩
  | featureOutOfRange {owner : String} {e : EnumExtension} {extnumber offset : Int}
      (numbered : e.extnumber = some extnumber) (placed : e.offset = some offset)
      (leaves : OutOfRange extnumber offset e.negative) :
      Faulty (.feature owner e) ⟨e.name, owner, .outOfRange⟩
  | missingNumber {x : Extension} {e : EnumExtension} (missing : (e.extnumber <|> x.number) = none) :
      Faulty (.extension x e) ⟨e.name, x.name, .missingNumber⟩
  | extensionOutOfRange {x : Extension} {e : EnumExtension} {extnumber offset : Int}
      (numbered : (e.extnumber <|> x.number) = some extnumber) (placed : e.offset = some offset)
      (leaves : OutOfRange extnumber offset e.negative) :
      Faulty (.extension x e) ⟨e.name, x.name, .outOfRange⟩

/-- An entry with a place is faulty where the value is out of range. -/
lemma positioned_eq_error_iff :
    positioned owner e extnumber offset = .error err ↔
      OutOfRange extnumber offset e.negative ∧ ⟨e.name, owner, .outOfRange⟩ = err := by
  rw [← extensionValue?_eq_none_iff, positioned]
  cases extensionValue? extnumber offset e.negative with
  | none =>
    rw [Except.error.injEq]
    exact (and_iff_right rfl).symm
  | some value =>
    constructor
    · nofun
    · rintro ⟨⟨⟩, _⟩

/-- Reading an entry of a feature fails with its fault. -/
lemma ofFeatureEntry_eq_error_iff :
    ofFeatureEntry owner e = .error err ↔ Entry.Faulty (.feature owner e) err := by
  unfold ofFeatureEntry
  split
  next n o numbered placed =>
    rw [positioned_eq_error_iff]
    constructor
    · rintro ⟨leaves, rfl⟩
      exact .featureOutOfRange numbered placed leaves
    · intro faulty
      cases faulty with
      | missingPosition missing => simp [numbered, placed] at missing
      | featureOutOfRange numbered' placed' leaves =>
        cases numbered.symm.trans numbered'
        cases placed.symm.trans placed'
        exact ⟨leaves, rfl⟩
  next unplaced =>
    constructor
    · intro failed
      cases failed
      refine .missingPosition ?_
      by_contra both
      obtain ⟨numbered, placed⟩ := not_or.1 both
      obtain ⟨n, numbered⟩ := Option.ne_none_iff_exists'.1 numbered
      obtain ⟨o, placed⟩ := Option.ne_none_iff_exists'.1 placed
      exact unplaced n o numbered placed
    · intro faulty
      cases faulty with
      | missingPosition => rfl
      | featureOutOfRange numbered placed => exact (unplaced _ _ numbered placed).elim

/-- An entry of an extension with a number is faulty only if it has an offset. -/
lemma not_faulty_of_unplaced (numbered : (e.extnumber <|> x.number) = some extnumber)
    (unplaced : e.offset = none) : ¬ Entry.Faulty (.extension x e) err := by
  intro faulty
  cases faulty with
  | missingNumber missing => cases numbered.symm.trans missing
  | extensionOutOfRange _ placed => cases unplaced.symm.trans placed

/-- Reading an entry of an extension fails when the entry is faulty, whatever is known by then. -/
lemma ofExtensionEntry_eq_error_iff :
    ofExtensionEntry known x e = .error err ↔ Entry.Faulty (.extension x e) err := by
  unfold ofExtensionEntry
  split
  next missing =>
    constructor
    · intro failed
      cases failed
      exact .missingNumber missing
    · intro faulty
      cases faulty with
      | missingNumber => rfl
      | extensionOutOfRange numbered => cases missing.symm.trans numbered
  next n o numbered placed =>
    rw [map_eq_error, positioned_eq_error_iff]
    constructor
    · rintro ⟨leaves, rfl⟩
      exact .extensionOutOfRange numbered placed leaves
    · intro faulty
      cases faulty with
      | missingNumber missing => cases numbered.symm.trans missing
      | extensionOutOfRange numbered' placed' leaves =>
        cases numbered.symm.trans numbered'
        cases placed.symm.trans placed'
        exact ⟨leaves, rfl⟩
  next numbered unplaced _ =>
    exact ⟨nofun, fun faulty => (not_faulty_of_unplaced numbered unplaced faulty).elim⟩
  next numbered unplaced _ =>
    exact ⟨nofun, fun faulty => (not_faulty_of_unplaced numbered unplaced faulty).elim⟩

/-! ## The first faulty entry -/

/-- Entries of extensions are read up to the first faulty one. -/
lemma addExtensionEntries_eq_error_iff {listed : List (Extension × EnumExtension)} :
    addExtensionEntries base found listed = .error err ↔
      FirstGiven (fun (x, e) => Entry.Faulty (.extension x e)) listed err := by
  induction listed generalizing found with
  | nil => exact ⟨nofun, fun given => (not_firstGiven_nil given).elim⟩
  | cons entry listed ih =>
    obtain ⟨x, e⟩ := entry
    rw [addExtensionEntries, bind_eq_error, ofExtensionEntry_eq_error_iff, firstGiven_cons]
    apply or_congr_right
    simp only [ih, exists_and_right, exists_ok_iff, ne_eq, ofExtensionEntry_eq_error_iff]

/-- Reading all entries fails at the first faulty one. -/
lemma additions_eq_error_iff :
    additions reg d = .error err ↔ FirstGiven Entry.Faulty (entries reg d.name) err := by
  have features (err : InvalidEntry) :
      ((featureEntries reg d.name).mapM fun (owner, e) => ofFeatureEntry owner e) = .error err ↔
        FirstGiven Entry.Faulty ((featureEntries reg d.name).map fun (owner, e) => .feature owner e) err := by
    rw [firstGiven_map]
    exact mapM_eq_error_iff fun _ _ => ofFeatureEntry_eq_error_iff
  refine bind_eq_error_iff_firstGiven features fun found err => ?_
  rw [firstGiven_map]
  exact addExtensionEntries_eq_error_iff

/-- Collecting fails at the first faulty entry, and only if the enum is declared. -/
lemma collect_eq_error_iff :
    collect reg rules = .error err ↔ (reg.enumDecl? rules.growableEnum).isSome = true ∧
      FirstGiven Entry.Faulty (entries reg rules.growableEnum) err := by
  unfold collect
  cases declared : reg.enumDecl? rules.growableEnum with
  | none =>
    constructor
    · nofun
    · rintro ⟨⟨⟩, _⟩
  | some d =>
    have tracked : d.name = rules.growableEnum := name_of_enumDecl? declared
    rw [← tracked, ← additions_eq_error_iff, Option.isSome_some, and_iff_right rfl]
    exact bind_pure_eq_error

/-- Entries with a fault, by the feature or the extension that requires them. -/
lemma exists_faulty_iff :
    (∃ entry ∈ entries reg enumName, ∃ err, entry.Faulty err) ↔
      (∃ f ∈ reg.features, ∃ e ∈ f.requires.enums, e.enumName = enumName ∧
        ∃ err, Entry.Faulty (.feature f.name e) err) ∨
      ∃ x ∈ reg.extensions, x.supported ≠ "disabled" ∧ ∃ e ∈ x.requires.enums, e.enumName = enumName ∧
        ∃ err, Entry.Faulty (.extension x e) err := by
  constructor
  · rintro ⟨entry, mem, faulty⟩
    obtain feature | extension := List.mem_append.1 mem
    · obtain ⟨⟨owner, e⟩, listed, rfl⟩ := List.mem_map.1 feature
      obtain ⟨f, held, rfl, required, extended⟩ := mem_featureEntries.1 listed
      exact .inl ⟨f, held, e, required, extended, faulty⟩
    · obtain ⟨⟨x, e⟩, listed, rfl⟩ := List.mem_map.1 extension
      obtain ⟨held, enabled, required, extended⟩ := mem_extensionEntries.1 listed
      exact .inr ⟨x, held, enabled, e, required, extended, faulty⟩
  · rintro (⟨f, held, e, required, extended, faulty⟩ | ⟨x, held, enabled, e, required, extended, faulty⟩)
    · have listed := mem_featureEntries.2 ⟨f, held, rfl, required, extended⟩
      exact ⟨_, List.mem_append_left _ (List.mem_map.2 ⟨_, listed, rfl⟩), faulty⟩
    · have listed := mem_extensionEntries.2 ⟨held, enabled, required, extended⟩
      exact ⟨_, List.mem_append_right _ (List.mem_map.2 ⟨_, listed, rfl⟩), faulty⟩

end CapabilityRegistry.Growable

namespace CapabilityRegistry.Mappings
open Growable

variable {reg : Registry} {disabled : DisabledSet} {closure : DependencyClosure} {rules : Rules}
  {err : InvalidEntry}

/-- Nothing but the tracked enum makes a build fail. -/
lemma build_eq_error_iff_collect :
    build reg disabled closure rules = .error err ↔ collect reg rules = .error err :=
  bind_pure_eq_error

/-- A build fails with the first faulty entry of the tracked enum, if that enum is declared: with the first one
of a feature that has no position or no value, or else with the first one of an extension that is not disabled
that has no number, or an offset and no value. -/
theorem build_eq_error_iff :
    (∀ err, build reg disabled closure rules = .error err ↔
      (reg.enumDecl? rules.growableEnum).isSome = true ∧
        FirstGiven Entry.Faulty (entries reg rules.growableEnum) err) ∧
    ((∃ err, build reg disabled closure rules = .error err) ↔
      (reg.enumDecl? rules.growableEnum).isSome = true ∧
        ((∃ f ∈ reg.features, ∃ e ∈ f.requires.enums, e.enumName = rules.growableEnum ∧
          ∃ err, Entry.Faulty (.feature f.name e) err) ∨
        ∃ x ∈ reg.extensions, x.supported ≠ "disabled" ∧ ∃ e ∈ x.requires.enums,
          e.enumName = rules.growableEnum ∧ ∃ err, Entry.Faulty (.extension x e) err)) := by
  have first : ∀ err, build reg disabled closure rules = .error err ↔ _ := fun _ =>
    build_eq_error_iff_collect.trans collect_eq_error_iff
  refine ⟨first, ?_⟩
  rw [← exists_faulty_iff, ← exists_firstGiven_iff, ← exists_and_left]
  exact exists_congr first

/-- An alias of an unknown name comes before an entry without an offset and one whose place needs more than
64 bits. -/
def hugePlace : Registry where
  enums := [baseFormats]
  extensions := [
    { name := "VK_EXT_alias", number := some 2, supported := "vulkan",
      requires := ⟨[], [
        { name := "VK_FORMAT_A_EXT", enumName := "VkFormat", aliasOf := some "VK_FORMAT_A" },
        { name := "VK_FORMAT_B_EXT", enumName := "VkFormat" }]⟩ },
    { name := "VK_EXT_huge", number := some 9223372036854775807, supported := "vulkan",
      requires := ⟨[], [{ name := "VK_FORMAT_HUGE_EXT", enumName := "VkFormat", offset := some 0 }]⟩ }]

example : build hugePlace {} {} {} = .error ⟨"VK_FORMAT_HUGE_EXT", "VK_EXT_huge", .outOfRange⟩ := rfl

end CapabilityRegistry.Mappings
