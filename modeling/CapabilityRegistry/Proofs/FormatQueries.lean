import CapabilityRegistry.Proofs.Growable.Entries
import CapabilityRegistry.Proofs.Mappings.Build
import CapabilityRegistry.Proofs.Model
import CapabilityRegistry.Proofs.Text
import CapabilityRegistry.Proofs.Traversal

/-!
# Tests of format queries

The ranges of every owner are queried once, under the test of the owner (`queried_formatBlocks`). Which
test that is depends on how the owner is named, not on what it is, so that the tests are right exactly when
the names of owners tell features and extensions apart (`rightlyQueried_iff`).
-/

namespace CapabilityRegistry.Traversal

/-! ## What is queried -/

/-- All queries of ranges, with the test that each one stands under. -/
def queries (blocks : List FormatBlock) : List (Option Guard × ValueRange) :=
  blocks.flatMap fun b => b.ranges.map (b.guard, ·)

/-- The ranges of owners are queried once each, under the tests of the owners. -/
def Queried (g : GrowableEnum) (blocks : List FormatBlock) (test : GrowableOwner → Option Guard) : Prop :=
  (queries blocks).Perm (g.owners.flatMap fun o => o.ranges.map (test o, ·))

/-- The test that the name of an owner asks for. -/
def namedTest (o : GrowableOwner) : Option Guard :=
  if isVersionOwner o then (versionFormats o).guard else some (.extension o.owner)

variable {reg : Registry} {rules : Rules} {model : Model} {header : Traversal} {g : GrowableEnum}
  {o : GrowableOwner}

/-- Every range is queried once, under the test that the name of its owner asks for. -/
theorem queried_formatBlocks : Queried g (formatBlocks g) namedTest := by
  have versions : ∀ o ∈ g.owners.filter isVersionOwner,
      (versionFormats o).ranges.map ((versionFormats o).guard, ·) = o.ranges.map (namedTest o, ·) := by
    intro o mem
    rw [namedTest, if_pos (List.mem_filter.1 mem).2]
    rfl
  have extensions : ∀ o ∈ g.owners.filter (!isVersionOwner ·),
      (extensionFormats o).flatMap (fun b => b.ranges.map (b.guard, ·)) = o.ranges.map (namedTest o, ·) := by
    intro o mem
    have other : ¬ isVersionOwner o = true := by simpa using (List.mem_filter.1 mem).2
    rw [namedTest, if_neg other, extensionFormats, List.flatMap_map]
    exact (List.map_eq_flatMap).symm
  have sorted : queries (formatBlocks g) =
      ((g.owners.filter isVersionOwner) ++ g.owners.filter (!isVersionOwner ·)).flatMap
        fun o => o.ranges.map (namedTest o, ·) := by
    rw [queries, formatBlocks, List.flatMap_append, List.flatMap_append, List.flatMap_map,
      List.flatMap_assoc]
    rw [List.flatMap_congr versions, List.flatMap_congr extensions]
  rw [Queried, sorted]
  exact (List.filter_append_perm _ _).flatMap_right _

/-! ## What owners are -/

/-- The name is that of an extension and not of a feature. -/
def ExtensionOnly (reg : Registry) (name : String) : Prop :=
  (∃ x ∈ reg.extensions, x.name = name) ∧ ¬ ∃ f ∈ reg.features, f.name = name

/-- The tests are of the right kind: that for an extension where the owner is one and no feature, and for a
version or none where the owner is a feature or the base version. -/
structure RightTests (reg : Registry) (g : GrowableEnum) (test : GrowableOwner → Option Guard) : Prop where
  extensions : ∀ o ∈ g.owners, test o = some (.extension o.owner) ↔ ExtensionOnly reg o.owner
  versions : ∀ o ∈ g.owners, (∃ f ∈ reg.features, f.name = o.owner) ∨ o.owner = baseVersionOwner →
    test o = none ∨ ∃ version, test o = some (.version version)

/-- The ranges of owners are queried once each, under tests of the right kind. -/
def RightlyQueried (reg : Registry) (g : GrowableEnum) (blocks : List FormatBlock) : Prop :=
  ∃ test, RightTests reg g test ∧ Queried g blocks test

/-- A version owns values where the name of the owner starts as those of versions do. -/
lemma isVersionOwner_iff : isVersionOwner o = true ↔ "VK_VERSION_".toList <+: o.owner.toList := by
  rw [isVersionOwner, versionSuffix?, Option.isSome_map, Option.isSome_iff_exists]
  apply exists_congr
  intro rest
  exact Text.stripStart?_eq_some_iff.trans eq_comm

/-- Values of a version are tested for by the version or not at all. -/
lemma namedTest_of_version (versioned : isVersionOwner o = true) :
    namedTest o = none ∨ ∃ version, namedTest o = some (.version version) := by
  rw [namedTest, if_pos versioned, versionFormats]
  dsimp only
  split
  · exact .inl rfl
  · obtain ⟨suffix, named⟩ := Option.isSome_iff_exists.1 versioned
    rw [named]
    exact .inr ⟨suffix, rfl⟩

/-- Every other owner is tested for as an extension. -/
lemma namedTest_eq_extension {name : String} :
    namedTest o = some (.extension name) ↔ isVersionOwner o = false ∧ o.owner = name := by
  cases versioned : isVersionOwner o with
  | false => simp [namedTest, versioned]
  | true =>
    obtain unguarded | ⟨version, guarded⟩ := namedTest_of_version versioned
    · simp [unguarded]
    · simp [guarded]

/-- Every owner is the base version, a feature or an extension. -/
lemma owner_cases (done : Growable.collect reg rules = .ok (some g)) (listed : o ∈ g.owners) :
    o.owner = baseVersionOwner ∨ (∃ f ∈ reg.features, f.name = o.owner) ∨
      ∃ x ∈ reg.extensions, x.name = o.owner := by
  obtain ⟨_, laid, _⟩ := Growable.owners_of_collect done
  obtain ⟨⟨name, value⟩, held⟩ := List.exists_mem_of_ne_nil _ (laid o listed).nonempty
  have entered := (Growable.lists_iff_entered done).1 ⟨o, listed, rfl, held⟩
  generalize o.owner = owner at entered
  cases entered with
  | base => exact .inl rfl
  | placed placed =>
    cases placed with
    | feature listed => exact .inr (.inl ⟨_, listed, rfl⟩)
    | extension listed => exact .inr (.inr ⟨_, (Growable.mem_extensionEntries.1 listed).1, rfl⟩)
  | reused _ start =>
    have listed := start.subset List.mem_concat_self
    exact .inr (.inr ⟨_, (Growable.mem_extensionEntries.1 listed).1, rfl⟩)

/-- An owner that is not only an extension is a feature or the base version. -/
lemma feature_or_base (done : Growable.collect reg rules = .ok (some g)) (listed : o ∈ g.owners)
    (other : ¬ ExtensionOnly reg o.owner) :
    (∃ f ∈ reg.features, f.name = o.owner) ∨ o.owner = baseVersionOwner := by
  obtain base | feature | extension := owner_cases done listed
  · exact .inr base
  · exact .inl feature
  · exact .inl (not_not.1 fun bare => other ⟨extension, bare⟩)

/-- Every owner has a range. -/
lemma exists_range (done : Growable.collect reg rules = .ok (some g)) (listed : o ∈ g.owners) :
    ∃ r, r ∈ o.ranges := by
  obtain ⟨_, laid, _⟩ := Growable.owners_of_collect done
  obtain ⟨segments, ranges, members, _⟩ := (laid o listed).ranges
  have some : segments ≠ [] := by
    rintro rfl
    exact (laid o listed).nonempty members.symm
  obtain ⟨segment, mem⟩ := List.exists_mem_of_ne_nil _ some
  exact ⟨segment.range, ranges ▸ List.mem_map_of_mem mem⟩

/-! ## When the tests are right -/

/-- Where owners are queried in two ways at once, the test of an owner in one is one of those in the other. -/
lemma exists_test {blocks : List FormatBlock} {test test' : GrowableOwner → Option Guard}
    (done : Growable.collect reg rules = .ok (some g)) (queried : Queried g blocks test)
    (queried' : Queried g blocks test') (listed : o ∈ g.owners) :
    ∃ o' ∈ g.owners, test' o' = test o := by
  obtain ⟨r, held⟩ := exists_range done listed
  have mem : (test o, r) ∈ g.owners.flatMap fun o => o.ranges.map (test o, ·) :=
    List.mem_flatMap.2 ⟨o, listed, List.mem_map_of_mem held⟩
  rw [(queried.symm.trans queried').mem_iff] at mem
  obtain ⟨o', listed', mem⟩ := List.mem_flatMap.1 mem
  obtain ⟨_, _, same⟩ := List.mem_map.1 mem
  exact ⟨o', listed', congrArg Prod.fst same⟩

/-- The tests are right where names tell what owners are. -/
lemma rightTests_namedTest
    (told : ∀ o ∈ g.owners, isVersionOwner o = true ↔ ¬ ExtensionOnly reg o.owner) :
    RightTests reg g namedTest where
  extensions o listed := by
    rw [namedTest_eq_extension, and_iff_left rfl, ← Bool.not_eq_true, told o listed, not_not]
  versions o listed known := by
    apply namedTest_of_version
    obtain feature | base := known
    · exact (told o listed).2 fun only => only.2 feature
    · rw [isVersionOwner_iff, base]
      decide

/-- Where names do not tell what an owner is, no tests of the right kind are those that are queried under. -/
lemma told_of_rightTests {test : GrowableOwner → Option Guard} {blocks : List FormatBlock}
    (done : Growable.collect reg rules = .ok (some g)) (right : RightTests reg g test)
    (queried : Queried g blocks test) (named : Queried g blocks namedTest) (listed : o ∈ g.owners) :
    isVersionOwner o = true ↔ ¬ ExtensionOnly reg o.owner := by
  constructor
  · intro versioned only
    obtain ⟨o', _, same⟩ := exists_test done queried named listed
    rw [(right.extensions o listed).2 only, namedTest_eq_extension] at same
    -- another owner of that name is named alike
    have versioned' := isVersionOwner_iff.1 versioned
    rw [← same.2, ← isVersionOwner_iff, same.1] at versioned'
    cases versioned'
  · intro other
    cases versioned : isVersionOwner o with
    | true => rfl
    | false =>
      have extension : namedTest o = some (.extension o.owner) :=
        namedTest_eq_extension.2 ⟨versioned, rfl⟩
      obtain ⟨o', listed', same⟩ := exists_test done named queried listed
      rw [extension] at same
      by_cases only : ExtensionOnly reg o'.owner
      · rw [(right.extensions o' listed').2 only, Option.some.injEq, Guard.extension.injEq] at same
        exact (other (same ▸ only)).elim
      · obtain unguarded | ⟨version, guarded⟩ := right.versions o' listed'
          (feature_or_base done listed' only)
        · cases unguarded.symm.trans same
        · cases guarded.symm.trans same

/-- The ranges of all owners are queried once each, and the tests are of the right kind exactly when the
owners that are named like versions are those that are no extensions. -/
theorem rightlyQueried_iff (made : Model.ofRegistry reg rules = .ok model)
    (done : ofModel model = .ok header) (tracked : model.mappings.growable = some g) :
    ∃ blocks, header.formats = some blocks ∧ Queried g blocks namedTest ∧
      (RightlyQueried reg g blocks ↔
        ∀ o ∈ g.owners, "VK_VERSION_".toList <+: o.owner.toList ↔ ¬ ExtensionOnly reg o.owner) := by
  have collected : Growable.collect reg rules = .ok (some g) := by
    rw [← tracked]
    exact (Mappings.built_of_build (Model.made_of_ofRegistry made).mappings).growable
  refine ⟨formatBlocks g, ?_, queried_formatBlocks, ?_⟩
  · rw [(written_of_ofModel done).formats, tracked, Option.map_some]
  · simp only [← isVersionOwner_iff]
    constructor
    · intro h o listed
      obtain ⟨test, right, queried⟩ := h
      exact told_of_rightTests collected right queried queried_formatBlocks listed
    · intro told
      exact ⟨namedTest, rightTests_namedTest told, queried_formatBlocks⟩

/-- A feature of some name and an extension add a format each. -/
def addedFormats (feature : String) : Registry where
  enums := [Growable.baseFormats]
  extensions := [
    { name := "VK_EXT_formats", number := some 341, supported := "vulkan",
      requires := ⟨[], [{ name := "VK_FORMAT_A4R4G4B4_UNORM_PACK16", enumName := "VkFormat",
                          offset := some 0 }]⟩ }]
  features := [
    { name := feature, api := "vulkan",
      requires := ⟨[], [{ name := "VK_FORMAT_A8_UNORM", enumName := "VkFormat", extnumber := some 471,
                          offset := some 1 }]⟩ }]

/-- The example has a header, whichever of the two features adds the format. -/
lemma addedFormats_header {feature : String}
    (named : feature = "VK_VERSION_1_4" ∨ feature = "VK_BASE_VERSION_1_4") :
    ∃ model header g, Model.ofRegistry (addedFormats feature) {} = .ok model ∧
      ofModel model = .ok header ∧ model.mappings.growable = some g ∧
      Growable.collect (addedFormats feature) {} = .ok (some g) := by
  let reg := addedFormats feature
  let disabled := DisabledSet.compute reg {}
  have closed : DependencyClosure.compute reg disabled {} = .ok {} := rfl
  obtain ⟨m, built, core, features, extensions⟩ :
      ∃ m, Mappings.build reg disabled {} {} = .ok m ∧ m.coreGroups = [] ∧ m.features = [] ∧
        m.extensions = [] := by
    refine ⟨_, rfl, ?_, ?_, ?_⟩
    all_goals rcases named with rfl | rfl <;> decide +kernel
  have linked : chainBlocks m = .ok [] := by
    unfold chainBlocks
    rw [core, features, extensions]
    rfl
  let model : Model := ⟨{}, reg, disabled, {}, m⟩
  obtain ⟨header, done, _⟩ : ∃ header, ofModel model = .ok header ∧ header.chains = [] :=
    exists_header linked
  have collected : Growable.collect reg {} = .ok m.growable := (Mappings.built_of_build built).growable
  have added : Growable.collect reg {} = .ok (some _) := rfl
  have tracked : m.growable = some _ := Except.ok.inj (collected.symm.trans added)
  exact ⟨model, header, _, Model.ofRegistry_of_parts closed built, done, tracked, added⟩

/-- A feature whose name starts like a version is told from an extension. -/
theorem rightlyQueried_iff_version :
    ∃ model header g blocks, Model.ofRegistry (addedFormats "VK_VERSION_1_4") {} = .ok model ∧
      ofModel model = .ok header ∧ model.mappings.growable = some g ∧ header.formats = some blocks ∧
      RightlyQueried (addedFormats "VK_VERSION_1_4") g blocks := by
  obtain ⟨model, header, g, made, done, tracked, collected⟩ := addedFormats_header (.inl rfl)
  obtain ⟨blocks, formats, _, right⟩ := rightlyQueried_iff made done tracked
  refine ⟨model, header, g, blocks, made, done, tracked, formats, right.2 fun o listed => ?_⟩
  obtain base | ⟨f, feature, named⟩ | ⟨x, extension, named⟩ := owner_cases collected listed
  · rw [base, ExtensionOnly]
    decide +kernel
  · cases List.mem_singleton.1 feature
    rw [← named, ExtensionOnly]
    decide +kernel
  · cases List.mem_singleton.1 extension
    rw [← named, ExtensionOnly]
    decide +kernel

/-- A feature of another name counts as an extension: its formats are queried under a test that no device
passes. -/
theorem not_rightlyQueried_base :
    ∃ model header g blocks, Model.ofRegistry (addedFormats "VK_BASE_VERSION_1_4") {} = .ok model ∧
      ofModel model = .ok header ∧ model.mappings.growable = some g ∧ header.formats = some blocks ∧
      ¬ RightlyQueried (addedFormats "VK_BASE_VERSION_1_4") g blocks := by
  obtain ⟨model, header, g, made, done, tracked, collected⟩ := addedFormats_header (.inr rfl)
  refine ⟨model, header, g, formatBlocks g, made, done, tracked, ?_, ?_⟩
  · rw [(written_of_ofModel done).formats, tracked, Option.map_some]
  · intro h
    obtain ⟨test, right, queried⟩ := h
    obtain ⟨_, _, o, listed, named, _⟩ := (Growable.listsPlaces_of_collect collected).features
      _ (List.mem_singleton_self _) _ (List.mem_singleton_self _) rfl _ rfl
    have told := told_of_rightTests collected right queried queried_formatBlocks listed
    rw [isVersionOwner_iff, named, ExtensionOnly] at told
    exact absurd told (by decide +kernel)

end CapabilityRegistry.Traversal
