import CapabilityRegistry.Proofs.Mappings.Answers
import CapabilityRegistry.Proofs.Model

/-!
# Mappings of a reordered registry

The order of the struct declarations does not count for the mappings, as long as no name is declared
twice: the disabled names, the graphs of aliases, the tables and the claims are the same. The main result
is `sameAnswers_withStructs`.
-/

namespace CapabilityRegistry

open Registry (Rearranges)

variable {reg : Registry} {rules : Rules} {structs structs' : List StructDecl} {name : String}

/-! ## Disabled names -/

/-- A reordered registry disables the same names. -/
lemma DisabledSet.contains_withStructs (rearranges : Rearranges reg structs') :
    (compute (reg.withStructs structs') rules).contains name = (compute reg rules).contains name := by
  have plumbing : isPlumbing (reg.withStructs structs') = isPlumbing reg := by
    funext name
    unfold isPlumbing
    rw [rearranges.first]
    rfl
  have extension : ofExtension (reg.withStructs structs') rules = ofExtension reg rules := by
    funext e
    unfold ofExtension
    rw [plumbing]
  -- only what structs disable by themselves is found in another order
  have moved : (candidates (reg.withStructs structs') rules).Perm (candidates reg rules) := by
    unfold candidates
    rw [extension]
    have foreign := rearranges.perm.flatMap_right (ofStruct rules)
    exact ((foreign.append_left _).append_right _).append_right _
  rw [Bool.eq_iff_iff, contains_compute, contains_compute]
  exact (moved.map _).mem_iff

namespace Mappings

variable {disabled disabled' : DisabledSet}

/-! ## Tables of reordered declarations -/

section tables
variable (distinct : (structs.map (·.name)).Nodup) (perm : structs'.Perm structs)

include distinct perm

/-- Reordered declarations make the same steps. -/
lemma target?_perm : (AliasGraph.ofPairs (aliasEdges structs')).target? =
    (AliasGraph.ofPairs (aliasEdges structs)).target? := by
  have distinct' := (perm.map StructDecl.name).nodup_iff.2 distinct
  funext name
  apply Option.ext
  intro target
  rw [target?_aliasEdges distinct, target?_aliasEdges distinct']
  simp only [perm.mem_iff]

/-- Reordered declarations state the same texts. -/
lemma ownTexts_perm {text? : StructDecl → Option String} :
    ownTexts text? structs' = ownTexts text? structs := by
  have distinct' := (perm.map StructDecl.name).nodup_iff.2 distinct
  apply NameTable.ext_get?
  intro name
  apply Option.ext
  intro text
  rw [get?_ownTexts distinct, get?_ownTexts distinct']
  simp only [perm.mem_iff]

/-- Tags depend on where aliases lead and not on the order of structs. -/
lemma collectTags_perm {aliases aliases' : AliasGraph} (same : aliases'.target? = aliases.target?) :
    collectTags rules aliases' structs' = collectTags rules aliases structs := by
  apply NameTable.ext_get?
  intro name
  rw [get?_collectTags, get?_collectTags, same, AliasGraph.resolve_congr same,
    ownTexts_perm distinct perm]

end tables

/-- Canonical names depend on where aliases lead only. -/
lemma canonicalIn_congr {aliases aliases' : AliasGraph} (same : aliases'.target? = aliases.target?) :
    canonicalIn aliases' name = canonicalIn aliases name := by
  rw [canonicalIn, canonicalIn, AliasGraph.root?_congr same]

section reordered
variable (rearranges : Rearranges reg structs')
  (same : ∀ name, disabled'.contains name = disabled.contains name)

include rearranges same

/-- Rearranged structs are enabled as before. -/
lemma enabledStructs_withStructs : (enabledStructs (reg.withStructs structs') disabled' rules).Perm
    (enabledStructs reg disabled rules) := by
  simp only [enabledStructs, DisabledSet.excludes_congr same]
  exact rearranges.perm.filter _

/-- Rearranged structs are reportable by themselves as before. -/
lemma ownNames_withStructs : (ownNames (reg.withStructs structs') disabled' rules).Perm
    (ownNames reg disabled rules) :=
  ((enabledStructs_withStructs rearranges same).filter _).map _

/-- Rearranged structs declare the same names. -/
lemma namedStructs_withStructs : (namedStructs (reg.withStructs structs') disabled').Perm
    (namedStructs reg disabled) := by
  simp only [namedStructs, same]
  exact rearranges.perm.filter _

/-- Aliases lead where they led before. -/
lemma aliasGraph_withStructs (distinct : reg.structNames.Nodup) :
    (aliasGraph (reg.withStructs structs') disabled' rules).target? =
      (aliasGraph reg disabled rules).target? :=
  target?_perm (nodup_enabledStructs distinct) (enabledStructs_withStructs rearranges same)

/-- The lists of extended structs stay the same. -/
lemma collectExtended_withStructs (distinct : reg.structNames.Nodup) :
    collectExtended (reg.withStructs structs') disabled' rules = collectExtended reg disabled rules := by
  have named := namedStructs_withStructs rearranges same
  have counting : (countingStructs (reg.withStructs structs') disabled' rules).Perm
      (countingStructs reg disabled rules) := named.filter _
  have nodup : ((countingStructs reg disabled rules).map (·.name)).Nodup :=
    nodup_countingStructs distinct
  apply NameTable.ext_get?
  intro name
  rw [get?_collectExtended, get?_collectExtended, ownTexts_perm nodup counting,
    AliasGraph.resolve_congr (target?_perm nodup counting)]
  simp only [(named.map (·.name)).mem_iff]

end reordered

/-! ## Claims -/

namespace ClaimContext
variable {ctx ctx' : ClaimContext} {claimed claimed' : List String}

/-- Two contexts decide every claim in the same way. -/
structure Same (ctx ctx' : ClaimContext) : Prop where
  canonical : ∀ name, canonicalIn ctx'.aliases name = canonicalIn ctx.aliases name
  typeTags : ctx'.typeTags = ctx.typeTags
  reportable : ∀ name, name ∈ ctx'.reportableNames ↔ name ∈ ctx.reportableNames

variable (same : ctx.Same ctx')

include same

/-- A claim depends on which structs are taken and not on their order. -/
lemma claim?_congr (taken : ∀ x, x ∈ claimed' ↔ x ∈ claimed) :
    ctx'.claim? claimed' name = ctx.claim? claimed name := by
  apply Option.ext
  intro e
  rw [claim?_eq_some_iff, claim?_eq_some_iff, same.canonical, same.typeTags, same.reportable, taken]

/-- A row of claims depends on which structs have been claimed, not on the order of their claims. -/
lemma claimNames_congr {names : List String} (taken : ∀ x, x ∈ claimed' ↔ x ∈ claimed) :
    (ctx'.claimNames claimed' names).1 = (ctx.claimNames claimed names).1 ∧
      ∀ x, x ∈ (ctx'.claimNames claimed' names).2 ↔ x ∈ (ctx.claimNames claimed names).2 := by
  induction names generalizing claimed claimed' with
  | nil => exact ⟨rfl, taken⟩
  | cons name names ih =>
    rw [claimNames, claimNames, claim?_congr same taken, same.canonical]
    cases ctx.claim? claimed name with
    | none => exact ih taken
    | some e =>
      -- both rows go on with the same struct claimed in front
      have taken' : ∀ x, x ∈ canonicalIn ctx.aliases name :: claimed' ↔
          x ∈ canonicalIn ctx.aliases name :: claimed := by
        intro x
        rw [List.mem_cons, List.mem_cons, taken]
      obtain ⟨entries, all⟩ := ih taken'
      exact ⟨congrArg (e :: ·) entries, all⟩

/-- All claims together depend on which structs are taken and not on their order, and take the same structs. -/
lemma claimAll_congr {requests : List (String × List String)}
    (taken : ∀ x, x ∈ claimed' ↔ x ∈ claimed) :
    (ctx'.claimAll claimed' requests).1 = (ctx.claimAll claimed requests).1 ∧
      ∀ x, x ∈ (ctx'.claimAll claimed' requests).2 ↔ x ∈ (ctx.claimAll claimed requests).2 := by
  induction requests generalizing claimed claimed' with
  | nil => exact ⟨rfl, taken⟩
  | cons request requests ih =>
    obtain ⟨name, required⟩ := request
    obtain ⟨first, taken'⟩ : (ctx'.claimNames claimed' required).1 = _ ∧ _ :=
      claimNames_congr same taken
    obtain ⟨others, all⟩ := ih taken'
    rw [claimAll, claimAll]
    exact ⟨congrArg₂ (fun entries others => ⟨name, entries⟩ :: others) first others, all⟩

end ClaimContext

/-! ## Builds -/

/-- Two mappings report the same structs, in the same places, and give the same answers. -/
structure SameAnswers (m m' : Mappings) : Prop where
  reportable : m'.reportable = m.reportable
  typeTags : m'.typeTags = m.typeTags
  extended : m'.extended = m.extended
  features : m'.features = m.features
  extensions : m'.extensions = m.extensions
  independent : m'.independent = m.independent
  isReportable : ∀ name, m'.isReportable name = m.isReportable name
  canonical : ∀ name, m'.canonical name = m.canonical name
  typeTag? : ∀ name, m'.typeTag? name = m.typeTag? name
  extendedOf? : ∀ name, m'.extendedOf? name = m.extendedOf? name

/-- A list in ascending order does not tell the order that it had before. -/
lemma mergeSort_of_perm {names names' : List String} (perm : names'.Perm names) :
    names'.mergeSort (fun a b => a ≤ b) = names.mergeSort fun a b => a ≤ b := by
  have sorted : ∀ names : List String, (names.mergeSort fun a b => a ≤ b).Pairwise (· ≤ ·) :=
    List.pairwise_mergeSort' (· ≤ ·)
  apply List.Perm.eq_of_pairwise' (sorted names') (sorted names)
  exact (List.mergeSort_perm names' _).trans (perm.trans (List.mergeSort_perm names _).symm)

section builds
variable (distinct : reg.structNames.Nodup) (rearranges : Rearranges reg structs')
  (same : ∀ name, disabled'.contains name = disabled.contains name)

include distinct rearranges same

/-- Names are claimed under the same conditions. -/
lemma claimContext_withStructs : (claimContext reg disabled rules).Same
    (claimContext (reg.withStructs structs') disabled' rules) := by
  have enabled : (enabledStructs (reg.withStructs structs') disabled' rules).Perm
      (enabledStructs reg disabled rules) := enabledStructs_withStructs rearranges same
  have own : (ownNames (reg.withStructs structs') disabled' rules).Perm (ownNames reg disabled rules) :=
    ownNames_withStructs rearranges same
  have graph : (aliasGraph (reg.withStructs structs') disabled' rules).target? =
      (aliasGraph reg disabled rules).target? := aliasGraph_withStructs rearranges same distinct
  have aliases : (reportableAliases (aliasGraph (reg.withStructs structs') disabled' rules)
      (ownNames (reg.withStructs structs') disabled' rules)
      (enabledStructs (reg.withStructs structs') disabled' rules)).Perm
      (reportableAliases (aliasGraph reg disabled rules) (ownNames reg disabled rules)
        (enabledStructs reg disabled rules)) := by
    unfold reportableAliases
    simp only [canonicalIn_congr graph, own.contains_eq]
    exact (enabled.filter _).map _
  exact {
    canonical := fun name => canonicalIn_congr graph
    typeTags := collectTags_perm (nodup_enabledStructs distinct) enabled graph
    reportable := fun name => (own.append aliases).mem_iff }

/-- Features claim the same names in the same order. -/
lemma featureClaims_withStructs :
    (featureClaims (reg.withStructs structs') disabled' rules).1 = (featureClaims reg disabled rules).1 ∧
      ∀ x, x ∈ (featureClaims (reg.withStructs structs') disabled' rules).2 ↔
        x ∈ (featureClaims reg disabled rules).2 := by
  have requests : featureRequests (reg.withStructs structs') disabled' rules =
      featureRequests reg disabled rules := by
    unfold featureRequests
    rw [show disabled'.contains = disabled.contains from funext same]
    rfl
  have own : (ownNames (reg.withStructs structs') disabled' rules).Perm (ownNames reg disabled rules) :=
    ownNames_withStructs rearranges same
  unfold featureClaims
  rw [requests]
  apply ClaimContext.claimAll_congr (claimContext_withStructs distinct rearranges same)
  exact fun x => ((own.filterMap _).map _).mem_iff

/-- Extensions claim the same names in the same order. -/
lemma extensionClaims_withStructs :
    (extensionClaims (reg.withStructs structs') disabled' rules).1 =
        (extensionClaims reg disabled rules).1 ∧
      ∀ x, x ∈ (extensionClaims (reg.withStructs structs') disabled' rules).2 ↔
        x ∈ (extensionClaims reg disabled rules).2 := by
  have requests : extensionRequests (reg.withStructs structs') disabled' rules =
      extensionRequests reg disabled rules := by
    unfold extensionRequests
    rw [show disabled'.contains = disabled.contains from funext same]
    rfl
  unfold extensionClaims
  rw [requests]
  apply ClaimContext.claimAll_congr (claimContext_withStructs distinct rearranges same)
  exact (featureClaims_withStructs distinct rearranges same).2

variable {closure closure' : DependencyClosure} {m m' : Mappings}

/-- A reordered registry has the same mappings. -/
lemma sameAnswers_of_built (built : Built reg disabled closure rules m)
    (built' : Built (reg.withStructs structs') disabled' closure' rules m') : SameAnswers m m' := by
  have ctx : (claimContext reg disabled rules).Same
      (claimContext (reg.withStructs structs') disabled' rules) :=
    claimContext_withStructs distinct rearranges same
  have reportable : m'.reportable = m.reportable := by
    rw [built.reportable, built'.reportable, mergeSort_of_perm (ownNames_withStructs rearranges same)]
  have typeTags : m'.typeTags = m.typeTags := by rw [built.typeTags, built'.typeTags, ctx.typeTags]
  have extended : m'.extended = m.extended := by
    rw [built.extended, built'.extended, collectExtended_withStructs rearranges same distinct]
  obtain ⟨features, _⟩ := featureClaims_withStructs distinct rearranges same
  obtain ⟨extensions, claimed⟩ := extensionClaims_withStructs distinct rearranges same
  exact {
    reportable
    typeTags
    extended
    features := by rw [built.features, built'.features, features]
    extensions := by rw [built.extensions, built'.extensions, extensions]
    independent := by
      rw [built.independent, built'.independent, reportable]
      apply List.filter_congr
      intro name _
      apply congrArg not
      rw [Bool.eq_iff_iff, List.contains_iff_mem, List.contains_iff_mem]
      exact claimed name
    isReportable := by
      intro name
      rw [Bool.eq_iff_iff, isReportable_iff_mem built, isReportable_iff_mem built', ctx.reportable]
    canonical := by
      intro name
      rw [canonical, canonical, built.aliases, built'.aliases]
      exact ctx.canonical name
    typeTag? := fun name => by rw [typeTag?, typeTag?, typeTags]
    extendedOf? := fun name => by rw [extendedOf?, extendedOf?, extended] }

end builds

/-- The order of the struct declarations does not count for what is disabled, nor for the mappings, if no
name is declared twice. -/
theorem sameAnswers_withStructs (distinct : reg.structNames.Nodup) (perm : structs'.Perm reg.structs)
    {model model' : Model} (made : Model.ofRegistry reg rules = .ok model)
    (made' : Model.ofRegistry (reg.withStructs structs') rules = .ok model') :
    (∀ name, model'.disabled.contains name = model.disabled.contains name) ∧
      SameAnswers model.mappings model'.mappings := by
  have made := Model.made_of_ofRegistry made
  have made' := Model.made_of_ofRegistry made'
  have rearranges := Registry.rearranges_of_perm distinct perm
  have same : ∀ name, model'.disabled.contains name = model.disabled.contains name := by
    intro name
    rw [made.disabled, made'.disabled]
    exact DisabledSet.contains_withStructs rearranges
  exact ⟨same, sameAnswers_of_built distinct rearranges same (built_of_build made.mappings)
    (built_of_build made'.mappings)⟩

/-- The closures of a registry and of its reverse are in different orders, the mappings are the same. -/
theorem sameAnswers_withStructs_shared :
    ∃ model model', Model.ofRegistry shared {} = .ok model ∧
      Model.ofRegistry (shared.withStructs shared.structs.reverse) {} = .ok model' ∧
      model'.closure.order ≠ model.closure.order ∧ SameAnswers model.mappings model'.mappings := by
  let reversed := shared.withStructs shared.structs.reverse
  let closure : DependencyClosure :=
    { order := [⟨"VkPhysicalDeviceVulkan12Features", false⟩, ⟨"VkPhysicalDeviceShaderFeatures", false⟩,
        ⟨"VkPhysicalDeviceDriverProperties", false⟩] }
  let closure' : DependencyClosure := { order := closure.order.reverse }
  have closed : DependencyClosure.compute shared (.compute shared {}) {} = .ok closure := by
    decide +kernel
  have closed' : DependencyClosure.compute reversed (.compute reversed {}) {} = .ok closure' := by
    decide +kernel
  obtain ⟨m, built⟩ : ∃ m, build shared (.compute shared {}) closure {} = .ok m := ⟨_, rfl⟩
  obtain ⟨m', built'⟩ : ∃ m', build reversed (.compute reversed {}) closure' {} = .ok m' := ⟨_, rfl⟩
  have made := Model.ofRegistry_of_parts closed built
  have made' := Model.ofRegistry_of_parts closed' built'
  have distinct : shared.structNames.Nodup := by decide
  have differ : closure.order.reverse ≠ closure.order := by decide
  obtain ⟨_, same⟩ := sameAnswers_withStructs distinct shared.structs.reverse_perm made made'
  exact ⟨_, _, made, made', differ, same⟩

end Mappings

end CapabilityRegistry
