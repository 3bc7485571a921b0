import CapabilityRegistry.Proofs.AliasGraph.Resolution
import CapabilityRegistry.Proofs.Mappings.Reportable
import CapabilityRegistry.Proofs.NameTable

/-!
# Answers of the mappings

What the tables of a build answer for any name: a type tag and a list of extended structs are resolved
along two different graphs of aliases. For a reportable name both walks follow the declared chain to its
end, so that the answers are what the last struct declares (`typeTag?_of_chain`, `extendedOf?_of_chain`),
and are those for the struct that the name stands for (`answers_of_reportable`).
-/

namespace CapabilityRegistry.Mappings

variable {reg : Registry} {disabled : DisabledSet} {closure : DependencyClosure} {rules : Rules}
  {m : Mappings} {name text : String}

/-! ## Texts that declarations state themselves -/

section own
variable {text? : StructDecl → Option String} {structs : List StructDecl}

/-- The texts that declarations, no aliases, state themselves. -/
def ownTexts (text? : StructDecl → Option String) (structs : List StructDecl) : NameTable :=
  .ofList (structs.filterMap fun d =>
    if d.aliasOf.isNone then (text? d).map (d.name, ·) else none)

/-- The text that a name has of its own is that of the struct with the name, if that is no alias. -/
lemma get?_ownTexts (distinct : (structs.map (·.name)).Nodup) :
    (ownTexts text? structs).get? name = some text ↔
      ∃ d ∈ structs, d.name = name ∧ d.aliasOf = none ∧ text? d = some text := by
  have mem_iff : ∀ name text, (name, text) ∈ (structs.filterMap fun d =>
      if d.aliasOf.isNone then (text? d).map (d.name, ·) else none) ↔
      ∃ d ∈ structs, d.name = name ∧ d.aliasOf = none ∧ text? d = some text := by
    intro name text
    rw [List.mem_filterMap]
    refine exists_congr fun d => and_congr_right fun _ => ?_
    cases d.aliasOf <;> simp [and_comm]
  rw [ownTexts, NameTable.get?_ofList_eq_some_iff, mem_iff]
  intro name text text' mem mem'
  obtain ⟨d, listed, rfl, _, own⟩ := (mem_iff _ _).1 mem
  obtain ⟨d', listed', same, _, own'⟩ := (mem_iff _ _).1 mem'
  cases List.inj_on_of_nodup_map distinct listed listed' same.symm
  exact Option.some.inj (own.symm.trans own')

/-- Along a declared chain that a graph has in full, a name resolves to what the last struct states. -/
lemma resolve_of_chain (distinct : (structs.map (·.name)).Nodup) {names : List String}
    {last : StructDecl} (chain : reg.AliasChain (name :: names) last)
    (listed : ∀ x ∈ name :: names, ∀ d, reg.structDecl? x = some d → d ∈ structs) :
    (AliasGraph.ofPairs (aliasEdges structs)).resolve (ownTexts text? structs).get? name =
      text? last := by
  have one : ∀ d ∈ structs, ∀ d' ∈ structs, d'.name = d.name → d' = d :=
    fun d mem d' mem' same => List.inj_on_of_nodup_map distinct mem' mem same
  induction names generalizing name with
  | nil =>
    obtain ⟨d, found, ⟨own, _, rfl⟩ | ⟨_, _, _, ⟨⟩, _⟩⟩ := chain.inv
    have mem := listed name List.mem_cons_self last found
    obtain ⟨_, rfl⟩ := Registry.mem_structs_of_structDecl? found
    have stop : (AliasGraph.ofPairs (aliasEdges structs)).target? last.name = none := by
      apply Option.eq_none_iff_forall_ne_some.2
      intro target hop
      obtain ⟨d, mem', same, stands⟩ := (target?_aliasEdges distinct).1 hop
      cases one last mem d mem' same
      cases own.symm.trans stands
    rw [AliasGraph.resolve_of_end stop]
    apply Option.ext
    intro text
    rw [get?_ownTexts distinct]
    constructor
    · intro h
      obtain ⟨d, mem', same, _, states⟩ := h
      cases one last mem d mem' same
      exact states
    · exact fun states => ⟨last, mem, rfl, own, states⟩
  | cons target names ih =>
    obtain ⟨d, found, ⟨_, ⟨⟩, _⟩ | ⟨_, _, stands, ⟨⟩, tail⟩⟩ := chain.inv
    have mem := listed name List.mem_cons_self d found
    obtain ⟨_, rfl⟩ := Registry.mem_structs_of_structDecl? found
    have bare : (ownTexts text? structs).get? d.name = none := by
      apply Option.eq_none_iff_forall_ne_some.2
      intro text states
      obtain ⟨d', mem', same, own, _⟩ := (get?_ownTexts distinct).1 states
      cases one d mem d' mem' same
      cases own.symm.trans stands
    have hop : (AliasGraph.ofPairs (aliasEdges structs)).target? d.name = some target :=
      (target?_aliasEdges distinct).2 ⟨d, mem, rfl, stands⟩
    rw [AliasGraph.resolve_of_step bare hop]
    exact ih tail fun x on => listed x (List.mem_cons_of_mem _ on)

end own

/-! ## Type tags -/

/-- The tag of an alias of a capability struct is resolved, any other tag is the name's own. -/
lemma get?_collectTags {aliases : AliasGraph} {structs : List StructDecl} :
    (collectTags rules aliases structs).get? name =
      if (aliases.target? name).any rules.isCapability then
        aliases.resolve (ownTexts StructDecl.typeTag structs).get? name
      else (ownTexts StructDecl.typeTag structs).get? name := by
  let own := ownTexts StructDecl.typeTag structs
  let resolved := (aliases.resolveAll own.get?).filterMap fun entry =>
    if (aliases.target? entry.1).any rules.isCapability then entry.2.map (entry.1, ·) else none
  have mem_iff : ∀ name tag, (name, tag) ∈ resolved ↔
      (aliases.target? name).any rules.isCapability ∧ aliases.resolve own.get? name = some tag := by
    intro name tag
    rw [List.mem_filterMap]
    constructor
    · intro h
      obtain ⟨⟨x, tag?⟩, mem, made⟩ := h
      obtain ⟨_, rfl⟩ := AliasGraph.mem_resolveAll_iff.1 mem
      dsimp only at made
      split at made
      next capable =>
        obtain ⟨tag', resolves, same⟩ := Option.map_eq_some_iff.1 made
        cases same
        exact ⟨capable, resolves⟩
      next => cases made
    · intro h
      obtain ⟨capable, resolves⟩ := h
      obtain ⟨target, hop, _⟩ := (Option.any_eq_true _ _).1 capable
      refine ⟨(name, some tag), AliasGraph.mem_resolveAll_iff.2 ?_, by simp [capable]⟩
      exact ⟨aliases.mem_aliases_of_target? hop, resolves.symm⟩
  have functional : Functional resolved.reverse := by
    intro name tag tag' mem mem'
    rw [List.mem_reverse, mem_iff] at mem mem'
    exact Option.some.inj (mem.2.symm.trans mem'.2)
  have last : (collectTags rules aliases structs).get? name =
      (resolved.reverse.lookup name).or (own.get? name) :=
    NameTable.get?_foldl_insert
  have found : ∀ tag, resolved.reverse.lookup name = some tag ↔
      (aliases.target? name).any rules.isCapability ∧ aliases.resolve own.get? name = some tag := by
    intro tag
    rw [functional.lookup_eq_some_iff, List.mem_reverse, mem_iff]
  rw [last]
  split
  next capable =>
    have same : resolved.reverse.lookup name = aliases.resolve own.get? name := by
      apply Option.ext
      intro tag
      rw [found, and_iff_right capable]
    rw [same]
    cases states : own.get? name with
    | none => exact Option.or_none
    | some tag =>
      -- what states its tag itself resolves to it
      rw [AliasGraph.resolve_of_value states, Option.some_or]
  next incapable =>
    have none : resolved.reverse.lookup name = none := by
      apply Option.eq_none_iff_forall_ne_some.2
      intro tag held
      exact incapable ((found tag).1 held).1
    rw [none, Option.none_or]

/-! ## Lists of extended structs -/

/-- The declarations that are not disabled by their own names. -/
def namedStructs (reg : Registry) (disabled : DisabledSet) : List StructDecl :=
  reg.structs.filter fun d => !disabled.contains d.name

/-- Those of them that count for lists of extended structs. -/
def countingStructs (reg : Registry) (disabled : DisabledSet) (rules : Rules) : List StructDecl :=
  extendingStructs rules (namedStructs reg disabled)

/-- No counting struct is listed twice where none is declared twice. -/
lemma nodup_countingStructs (distinct : reg.structNames.Nodup) :
    ((countingStructs reg disabled rules).map (·.name)).Nodup :=
  distinct.sublist ((List.filter_sublist.trans List.filter_sublist).map _)

/-- The list of a name that is declared and not disabled is resolved, no other name has one. -/
lemma get?_collectExtended :
    (collectExtended reg disabled rules).get? name =
      if name ∈ (namedStructs reg disabled).map (·.name) then
        (AliasGraph.ofPairs (aliasEdges (countingStructs reg disabled rules))).resolve
          (ownTexts StructDecl.extended (countingStructs reg disabled rules)).get? name
      else none := by
  let graph := AliasGraph.ofPairs (aliasEdges (countingStructs reg disabled rules))
  let own := ownTexts StructDecl.extended (countingStructs reg disabled rules)
  let resolved := (namedStructs reg disabled).filterMap fun d =>
    (graph.resolve own.get? d.name).map (d.name, ·)
  have mem_iff : ∀ name text, (name, text) ∈ resolved ↔
      name ∈ (namedStructs reg disabled).map (·.name) ∧ graph.resolve own.get? name = some text := by
    intro name text
    simp only [resolved, List.mem_filterMap, List.mem_map, Option.map_eq_some_iff, Prod.mk.injEq]
    constructor
    · intro h
      obtain ⟨d, mem, _, resolves, rfl, rfl⟩ := h
      exact ⟨⟨d, mem, rfl⟩, resolves⟩
    · intro h
      obtain ⟨⟨d, mem, rfl⟩, resolves⟩ := h
      exact ⟨d, mem, text, resolves, rfl, rfl⟩
  have functional : Functional resolved := by
    intro name text text' mem mem'
    rw [mem_iff] at mem mem'
    exact Option.some.inj (mem.2.symm.trans mem'.2)
  apply Option.ext
  intro text
  refine (NameTable.get?_ofList_eq_some_iff functional).trans ((mem_iff name text).trans ?_)
  split
  next named => exact and_iff_right named
  next unnamed => exact ⟨fun h => (unnamed h.1).elim, nofun⟩

/-! ## Answers for reportable names -/

section chain
variable {names : List String} {last : StructDecl}

variable (distinct : reg.structNames.Nodup) (built : Built reg disabled closure rules m)

include distinct built

/-- The name behind a reportable name is the one at the end of its chain. -/
lemma canonical_of_chain (reportable : ReportableChain reg disabled rules (name :: names) last) :
    m.canonical name = last.name := by
  obtain ⟨own, hops⟩ := hops_of_chain distinct reportable
  have stop := AliasGraph.target?_eq_none_iff.2 (not_mem_aliases_of_own distinct own)
  rw [canonical, canonicalIn, built.aliases, AliasGraph.root?_eq_some_iff.2 ⟨hops, stop⟩]
  rfl

/-- A reportable name has the type tag of the struct at the end of its chain. -/
lemma typeTag?_of_chain (reportable : ReportableChain reg disabled rules (name :: names) last) :
    m.typeTag? name = last.typeTag := by
  have resolves : (aliasGraph reg disabled rules).resolve
      (ownTexts StructDecl.typeTag (enabledStructs reg disabled rules)).get? name = last.typeTag :=
    resolve_of_chain (nodup_enabledStructs distinct) reportable.chain
      fun x mem d found => reportable.listed mem found
  rw [typeTag?, built.typeTags]
  refine get?_collectTags.trans ?_
  split
  next => exact resolves
  next incapable =>
    cases hop : (aliasGraph reg disabled rules).target? name with
    | none => rw [← resolves, AliasGraph.resolve_of_end hop]
    | some target =>
      -- the chain goes on with the target, which is a capability struct like all names on it
      obtain ⟨d, enabled, rfl, stands⟩ := (target?_aliasGraph distinct).1 hop
      have found := (Registry.structDecl?_eq_some_iff distinct).2 ⟨List.mem_of_mem_filter enabled, rfl⟩
      have on := reportable.chain.mem_target List.mem_cons_self found stands
      rw [hop] at incapable
      exact (incapable (reportable.capability target on)).elim

/-- A reportable name has the list of extended structs of the struct at the end of its chain. The graph of
this table leaves out what extends no aggregator, but such a struct is disabled already. -/
lemma extendedOf?_of_chain (computed : disabled = .compute reg rules)
    (reportable : ReportableChain reg disabled rules (name :: names) last) :
    m.extendedOf? name = last.extended := by
  have named : ∀ x ∈ name :: names, ∀ d, reg.structDecl? x = some d → d ∈ namedStructs reg disabled := by
    intro x mem d found
    obtain ⟨declared, _, on, _⟩ := mem_enabledStructs.1 (reportable.listed mem found)
    exact List.mem_filter.2 ⟨declared, by rw [on]; rfl⟩
  have counting : ∀ x ∈ name :: names, ∀ d, reg.structDecl? x = some d →
      d ∈ countingStructs reg disabled rules := by
    intro x mem d found
    obtain ⟨declared, _, on, _⟩ := mem_enabledStructs.1 (reportable.listed mem found)
    rw [computed] at on
    exact List.mem_filter.2 ⟨named x mem d found, DisabledSet.extends_of_enabled declared on⟩
  obtain ⟨d, found, _⟩ := reportable.chain.inv
  obtain ⟨_, rfl⟩ := Registry.mem_structs_of_structDecl? found
  have mem := List.mem_map_of_mem (f := fun d : StructDecl => d.name)
    (named _ List.mem_cons_self d found)
  rw [extendedOf?, built.extended, get?_collectExtended, if_pos mem]
  exact resolve_of_chain (nodup_countingStructs distinct) reportable.chain counting

omit built in
/-- The struct at the end of a chain is a chain of its own. -/
lemma single_of_chain (reportable : ReportableChain reg disabled rules (name :: names) last) :
    ReportableChain reg disabled rules [last.name] last := by
  obtain ⟨found, own⟩ := reportable.chain.structDecl?_last
  obtain ⟨d, enabled, same, _⟩ := mem_ownNames.1 (hops_of_chain distinct reportable).1
  have one : reg.structDecl? last.name = some d :=
    (Registry.structDecl?_eq_some_iff distinct).2 ⟨List.mem_of_mem_filter enabled, same⟩
  cases found.symm.trans one
  exact .single found enabled own reportable.aggregated

/-- A reportable name and the struct behind it have one type tag. -/
lemma typeTag?_canonical (reportable : m.isReportable name = true) :
    m.typeTag? (m.canonical name) = m.typeTag? name := by
  obtain ⟨names, last, chain⟩ := (isReportable_iff_chain distinct built).1 reportable
  calc m.typeTag? (m.canonical name)
    _ = m.typeTag? last.name := by rw [canonical_of_chain distinct built chain]
    _ = last.typeTag := typeTag?_of_chain distinct built (single_of_chain distinct chain)
    _ = m.typeTag? name := (typeTag?_of_chain distinct built chain).symm

end chain

/-- A reportable name, an alias of any depth as well, answers what the struct behind it declares: its type
tag, if it has one, and a list of extended structs with an aggregator. -/
theorem answers_of_reportable (distinct : reg.structNames.Nodup)
    (done : build reg (.compute reg rules) closure rules = .ok m)
    (reportable : m.isReportable name = true) :
    ∃ d, reg.structDecl? (m.canonical name) = some d ∧ d.aliasOf = none ∧
      m.typeTag? name = d.typeTag ∧ m.typeTag? (m.canonical name) = d.typeTag ∧
      ∃ extended, d.extended = some extended ∧ m.extendedOf? name = some extended ∧
        rules.extendsAggregator extended = true := by
  have built := built_of_build done
  obtain ⟨names, last, chain⟩ := (isReportable_iff_chain distinct built).1 reportable
  obtain ⟨found, own⟩ := chain.chain.structDecl?_last
  obtain ⟨extended, states, aggregated⟩ := (Option.any_eq_true _ _).1 chain.aggregated
  have tag : m.typeTag? name = last.typeTag := typeTag?_of_chain distinct built chain
  refine ⟨last, ?_, own, tag, ?_, extended, states, ?_, aggregated⟩
  · rw [canonical_of_chain distinct built chain]
    exact found
  · rw [typeTag?_canonical distinct built reportable]
    exact tag
  · rw [extendedOf?_of_chain distinct built rfl chain]
    exact states

/-- A name at the start of a chain of two aliases has the answers of the struct at its end. -/
theorem answers_of_reportable_renamedTwice :
    ∃ m, build renamedTwice (.compute renamedTwice {}) {} {} = .ok m ∧
      m.isReportable "VkPhysicalDeviceShaderFeaturesEXT" = true ∧
      m.typeTag? "VkPhysicalDeviceShaderFeaturesEXT" =
        some "VK_STRUCTURE_TYPE_PHYSICAL_DEVICE_SHADER_FEATURES" ∧
      m.extendedOf? "VkPhysicalDeviceShaderFeaturesEXT" = some "VkPhysicalDeviceFeatures2" := by
  have distinct : renamedTwice.structNames.Nodup := by decide
  have done : build renamedTwice (.compute renamedTwice {}) {} {} = .ok _ := rfl
  have built := built_of_build done
  have chain : renamedTwice.AliasChain ["VkPhysicalDeviceShaderFeaturesEXT",
      "VkPhysicalDeviceShaderFeaturesKHR", "VkPhysicalDeviceShaderFeatures"] _ :=
    .cons rfl rfl (.cons rfl rfl (.last rfl rfl))
  have counts : ReportableChain renamedTwice (.compute renamedTwice {}) {} _ _ :=
    ⟨chain, by decide +kernel, by decide +kernel, by decide +kernel⟩
  have reportable := (isReportable_iff_chain distinct built).2 ⟨_, _, counts⟩
  obtain ⟨d, found, _, tag, _, extended, states, answered, _⟩ :=
    answers_of_reportable distinct done reportable
  rw [canonical_of_chain distinct built counts] at found
  cases found
  cases states
  exact ⟨_, done, reportable, tag, answered⟩

end CapabilityRegistry.Mappings
