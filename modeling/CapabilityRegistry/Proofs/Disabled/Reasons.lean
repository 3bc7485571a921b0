import CapabilityRegistry.Proofs.Disabled
import CapabilityRegistry.Proofs.Distinct
import CapabilityRegistry.Proofs.First
import CapabilityRegistry.Proofs.Text

/-!
# Reasons

Names are disabled by the rules themselves, by declarations of structs, by features and by extensions, which
are asked in that order. `reasons_of_compute` says that a name is disabled when one of them disables it, and that
the reason that is kept is what the first of them gives.
-/

namespace CapabilityRegistry

/-- The name of a capability struct starts as the rules say. -/
def Rules.Capable (rules : Rules) (name : String) : Prop :=
  rules.capabilityStart.toList <+: name.toList

/-- A list of extended structs names an aggregator between its commas. -/
def Rules.Aggregated (rules : Rules) (extended : String) : Prop :=
  ∃ target ∈ Text.splitAt ',' extended, Text.trimmed target ∈ rules.aggregators

/-- An extension is enabled unless it is disabled or made for another platform. -/
def Rules.Enabled (rules : Rules) (x : Extension) : Prop :=
  x.supported ≠ "disabled" ∧ ∀ platform, x.platform = some platform → platform = rules.supportedPlatform

namespace DisabledSet

/-- What may disable names, in the order in which it is asked. -/
inductive Source where
  | rules
  | declarations
  | feature (f : Feature)
  | extension (x : Extension)

/-- The sources of a registry: features and extensions in document order. -/
def sources (reg : Registry) : List Source :=
  .rules :: .declarations :: reg.features.map .feature ++ reg.extensions.map .extension

/-- A source disables a name for a reason. -/
inductive DisabledBy (reg : Registry) (rules : Rules) (name : String) : Source → DisableReason → Prop where
  | listed (listed : name ∈ rules.alwaysDisabled) : DisabledBy reg rules name .rules .alwaysDisabled
  | foreign {d : StructDecl} {extended : String} (declared : d ∈ reg.structs) (named : d.name = name)
      (states : d.extended = some extended) (foreign : ¬ rules.Aggregated extended) :
      DisabledBy reg rules name .declarations .foreignExtends
  | restricted {f : Feature} (restricted : f.api = rules.restrictedApi) (required : name ∈ f.requires.types)
      (capable : rules.Capable name) : DisabledBy reg rules name (.feature f) (.restrictedApi f.name)
  | unsupported {x : Extension} (off : ¬ rules.Enabled x) (required : name ∈ x.requires.types) :
      DisabledBy reg rules name (.extension x) (.unsupportedExtension x.name)
  | plumbing {x : Extension} (on : rules.Enabled x) (required : name ∈ x.requires.types)
      (declared : name ∈ reg.structNames ∨ name ∈ reg.handles)
      (noProperties : ¬ "Properties".toList <:+: name.toList)
      (noFeatures : ¬ "Features".toList <:+: name.toList) :
      DisabledBy reg rules name (.extension x) (.extensionPlumbing x.name)

variable {reg : Registry} {rules : Rules} {set : DisabledSet} {name : String} {reason : DisableReason}

/-! ## The first entry of a name is kept -/

/-- A name keeps the reason that it has when an entry is inserted. -/
lemma reason?_insert {entry : String × DisableReason} :
    (set.insert entry).reason? name = (set.reason? name).or ([entry].lookup name) := by
  unfold insert
  split
  next old =>
    -- an entry of this name is there, so that the new one would not be found
    by_cases same : name = entry.1
    · obtain ⟨kept, mem, eq⟩ := List.mem_map.1 (contains_iff.1 old)
      have held : (name, kept.2) ∈ set.entries := by
        rw [same, ← eq]
        exact mem
      obtain ⟨reason, found⟩ := exists_lookup_of_mem held
      rw [reason?, found, Option.some_or]
    · rw [List.lookup_cons, beq_false_of_ne same]
      exact Option.or_none.symm
  next => exact List.lookup_append

/-- Of several entries for a new name the first one gives the reason. -/
lemma reason?_foldl {entries : List (String × DisableReason)} :
    (entries.foldl insert set).reason? name = (set.reason? name).or (entries.lookup name) := by
  induction entries generalizing set with
  | nil => exact Option.or_none.symm
  | cons entry entries ih =>
    rw [List.foldl_cons, ih, reason?_insert, Option.or_assoc, ← List.lookup_append, List.singleton_append]

/-- An inserted entry makes no name be there twice. -/
lemma nodup_insert {entry : String × DisableReason} (nodup : set.names.Nodup) :
    (set.insert entry).names.Nodup := by
  unfold insert
  split
  next => exact nodup
  next new =>
    rw [names, List.map_append, List.nodup_append']
    refine ⟨nodup, List.nodup_singleton _, ?_⟩
    rw [List.map_singleton, List.disjoint_singleton]
    exact fun mem => new (contains_iff.2 mem)

/-- Several inserted entries make no name be there twice. -/
lemma nodup_foldl {entries : List (String × DisableReason)} (nodup : set.names.Nodup) :
    (entries.foldl insert set).names.Nodup := by
  induction entries generalizing set with
  | nil => exact nodup
  | cons entry entries ih => exact ih (nodup_insert nodup)

/-- Among names that are there once, an entry is the one that its name finds. -/
lemma reason?_eq_some_iff (nodup : set.names.Nodup) :
    set.reason? name = some reason ↔ (name, reason) ∈ set.entries :=
  (functional_of_nodup nodup).lookup_eq_some_iff

/-- A set contains the names that have a reason in it. -/
lemma contains_iff_exists : set.contains name = true ↔ ∃ reason, (name, reason) ∈ set.entries := by
  simp [contains_iff, names]

/-! ## Candidates, source by source -/

/-- What a source disables. -/
def ofSource (reg : Registry) (rules : Rules) : Source → List (String × DisableReason)
  | .rules => rules.alwaysDisabled.map (·, .alwaysDisabled)
  | .declarations => reg.structs.flatMap (ofStruct rules)
  | .feature f => ofFeature rules f
  | .extension x => ofExtension reg rules x

/-- The candidates come from the sources one after the other. -/
lemma candidates_eq : candidates reg rules = (sources reg).flatMap (ofSource reg rules) := by
  simp only [candidates, sources, List.cons_append, List.flatMap_cons, List.flatMap_append,
    List.flatMap_map, ofSource, List.append_assoc]

/-- In joined lists a name is found where the first of them has it. -/
lemma lookup_flatMap {α : Type} {l : List α} {f : α → List (String × DisableReason)} :
    (l.flatMap f).lookup name = l.findSome? fun a => (f a).lookup name := by
  induction l with
  | nil => rfl
  | cons a l ih =>
    rw [List.flatMap_cons, List.lookup_append, List.findSome?_cons, ih]
    cases (f a).lookup name with
    | none => exact Option.none_or
    | some reason => exact Option.some_or

/-- A list passes for aggregated where a name between its commas is that of an aggregator. -/
lemma aggregated_iff {extended : String} : rules.extendsAggregator extended = true ↔ rules.Aggregated extended := by
  simp [Rules.extendsAggregator, Rules.Aggregated]

/-- An extension passes for enabled unless it is disabled or made for another platform. -/
lemma enabled_iff {x : Extension} : rules.extensionEnabled x.supported x.platform = true ↔ rules.Enabled x := by
  unfold Rules.extensionEnabled Rules.Enabled
  cases x.platform <;> simp

/-- A name passes for a capability's where it starts as the rules say. -/
lemma capable_iff : rules.isCapability name = true ↔ rules.Capable name :=
  List.isPrefixOf_iff_prefix

/-- Plumbing is a struct or handle with neither properties nor features in its name. -/
lemma isPlumbing_iff :
    isPlumbing reg name = true ↔ (name ∈ reg.structNames ∨ name ∈ reg.handles) ∧
      ¬ "Properties".toList <:+: name.toList ∧ ¬ "Features".toList <:+: name.toList := by
  have declared : (reg.structDecl? name).isSome = true ↔ name ∈ reg.structNames := by
    rw [Registry.structDecl?, List.find?_isSome]
    simp [Registry.structNames]
  simp only [isPlumbing, Bool.and_eq_true, Bool.or_eq_true, Bool.not_eq_true', declared, Registry.isHandle,
    List.contains_iff_mem, ← Bool.not_eq_true, Text.contains_iff, and_assoc]

/-- The candidates of the declarations are the names that these disable. -/
lemma mem_ofStructs_iff :
    (name, reason) ∈ reg.structs.flatMap (ofStruct rules) ↔ DisabledBy reg rules name .declarations reason := by
  rw [List.mem_flatMap]
  constructor
  · intro h
    obtain ⟨d, declared, mem⟩ := h
    unfold ofStruct at mem
    split at mem
    next foreign =>
      cases List.mem_singleton.1 mem
      obtain ⟨extended, states, foreign⟩ := (Option.any_eq_true _ _).1 foreign
      refine .foreign declared rfl states fun aggregated => ?_
      rw [aggregated_iff.2 aggregated] at foreign
      cases foreign
    next => cases mem
  · intro h
    cases h with
    | foreign declared named states foreign =>
      refine ⟨_, declared, ?_⟩
      rw [← aggregated_iff, Bool.not_eq_true] at foreign
      simp [ofStruct, states, foreign, named]

/-- The candidates of a feature are the names that it disables. -/
lemma mem_ofFeature_iff {f : Feature} :
    (name, reason) ∈ ofFeature rules f ↔ DisabledBy reg rules name (.feature f) reason := by
  unfold ofFeature
  split
  next restricted =>
    simp only [List.mem_map, List.mem_filter, Prod.mk.injEq, capable_iff]
    constructor
    · intro h
      obtain ⟨_, ⟨required, capable⟩, rfl, rfl⟩ := h
      exact .restricted restricted required capable
    · intro h
      cases h with
      | restricted _ required capable => exact ⟨name, ⟨required, capable⟩, rfl, rfl⟩
  next free =>
    refine ⟨nofun, fun h => ?_⟩
    cases h with
    | restricted restricted => exact (free restricted).elim

/-- The candidates of an extension are the names that it disables. -/
lemma mem_ofExtension_iff {x : Extension} :
    (name, reason) ∈ ofExtension reg rules x ↔ DisabledBy reg rules name (.extension x) reason := by
  unfold ofExtension
  split
  next on =>
    rw [enabled_iff] at on
    simp only [List.mem_map, List.mem_filter, Prod.mk.injEq, isPlumbing_iff]
    constructor
    · intro h
      obtain ⟨_, ⟨required, declared, noProperties, noFeatures⟩, rfl, rfl⟩ := h
      exact .plumbing on required declared noProperties noFeatures
    · intro h
      cases h with
      | unsupported off => exact (off on).elim
      | plumbing _ required declared noProperties noFeatures =>
        exact ⟨name, ⟨required, declared, noProperties, noFeatures⟩, rfl, rfl⟩
  next off =>
    rw [enabled_iff] at off
    simp only [List.mem_map, Prod.mk.injEq]
    constructor
    · intro h
      obtain ⟨_, required, rfl, rfl⟩ := h
      exact .unsupported off required
    · intro h
      cases h with
      | unsupported _ required => exact ⟨name, required, rfl, rfl⟩
      | plumbing on => exact (off on).elim

/-- The candidates of a source are the names that it disables. -/
lemma mem_ofSource_iff {source : Source} :
    (name, reason) ∈ ofSource reg rules source ↔ DisabledBy reg rules name source reason := by
  cases source with
  | rules =>
    simp only [ofSource, List.mem_map, Prod.mk.injEq]
    constructor
    · intro h
      obtain ⟨_, listed, rfl, rfl⟩ := h
      exact .listed listed
    · intro h
      cases h with
      | listed listed => exact ⟨name, listed, rfl, rfl⟩
  | declarations => exact mem_ofStructs_iff
  | feature f => exact mem_ofFeature_iff
  | extension x => exact mem_ofExtension_iff

/-- A source disables a name for one reason. -/
lemma DisabledBy.unique {source : Source} {reason' : DisableReason}
    (first : DisabledBy reg rules name source reason) (second : DisabledBy reg rules name source reason') :
    reason = reason' := by
  cases first with
  | listed => cases second; rfl
  | foreign => cases second; rfl
  | restricted => cases second; rfl
  | unsupported off =>
    cases second with
    | unsupported => rfl
    | plumbing on => exact (off on).elim
  | plumbing on =>
    cases second with
    | unsupported off => exact (off on).elim
    | plumbing => rfl

/-- A source has one reason for a name, if it disables it. -/
lemma lookup_ofSource {source : Source} :
    (ofSource reg rules source).lookup name = some reason ↔ DisabledBy reg rules name source reason := by
  have functional : Functional (ofSource reg rules source) :=
    fun name reason reason' mem mem' => (mem_ofSource_iff.1 mem).unique (mem_ofSource_iff.1 mem')
  rw [functional.lookup_eq_some_iff, mem_ofSource_iff]

/-! ## What is disabled, and why -/

/-- The reason that is kept is the first one in the order of the sources. -/
lemma reason?_compute :
    (compute reg rules).reason? name = some reason ↔
      FirstGiven (DisabledBy reg rules name) (sources reg) reason := by
  have kept : (compute reg rules).reason? name = (candidates reg rules).lookup name :=
    reason?_foldl.trans Option.none_or
  rw [kept, candidates_eq, lookup_flatMap]
  exact findSome?_eq_some_iff_firstGiven fun source reason => lookup_ofSource

/-- No name is disabled twice; a name is disabled when some source disables it, and the reason that is kept is
what the first such source gives. -/
theorem reasons_of_compute :
    (compute reg rules).names.Nodup ∧
      (∀ name, (compute reg rules).contains name = true ↔
        ∃ reason, (name, reason) ∈ (compute reg rules).entries) ∧
      (∀ name, (compute reg rules).contains name = true ↔
        ∃ source ∈ sources reg, ∃ reason, DisabledBy reg rules name source reason) ∧
      ∀ name reason, ((compute reg rules).reason? name = some reason ↔
          (name, reason) ∈ (compute reg rules).entries) ∧
        ((compute reg rules).reason? name = some reason ↔
          FirstGiven (DisabledBy reg rules name) (sources reg) reason) := by
  have nodup : (compute reg rules).names.Nodup := nodup_foldl List.nodup_nil
  refine ⟨nodup, fun name => contains_iff_exists, fun name => ?_, fun name reason => ?_⟩
  · rw [contains_iff_exists, ← exists_firstGiven_iff]
    exact exists_congr fun reason => (reason?_eq_some_iff nodup).symm.trans reason?_compute
  · exact ⟨reason?_eq_some_iff nodup, reason?_compute⟩

end DisabledSet

end CapabilityRegistry
