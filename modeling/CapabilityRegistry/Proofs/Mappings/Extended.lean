import CapabilityRegistry.Proofs.Mappings.Answers

/-!
# Lists of extended structs

Which list of extended structs the mappings answer for a name. An alias passes the question on to the name that
it stands for, whether it states a list itself or not (`extendedOf?_of_alias`). So the answer is not always the
list that is stated first on the chain of a name: `firstListAnswered_iff` says for which names it is.
-/

namespace CapabilityRegistry.Mappings

/-- The first declaration on the alias chain of a name that states a text; no name up to it is disabled. -/
inductive FirstStating (reg : Registry) (disabled : DisabledSet) (text? : StructDecl → Option String) :
    String → StructDecl → Prop where
  | here {name : String} {d : StructDecl} (found : reg.structDecl? name = some d)
      (on : disabled.contains name = false) (states : (text? d).isSome) :
      FirstStating reg disabled text? name d
  | further {name target : String} {d last : StructDecl} (found : reg.structDecl? name = some d)
      (on : disabled.contains name = false) (bare : text? d = none) (stands : d.aliasOf = some target)
      (rest : FirstStating reg disabled text? target last) : FirstStating reg disabled text? name last

/-- The list of extended structs of a declaration that is no alias. -/
def unaliasedList (d : StructDecl) : Option String :=
  if d.aliasOf.isNone then d.extended else none

/-- The list of extended structs of a name is the one that is stated first on its alias chain, and there is no
list where none is stated there. -/
def FirstListAnswered (reg : Registry) (disabled : DisabledSet) (m : Mappings) (name : String) : Prop :=
  ∀ text, m.extendedOf? name = some text ↔
    ∃ d, FirstStating reg disabled StructDecl.extended name d ∧ d.extended = some text

variable {reg : Registry} {closure : DependencyClosure} {rules : Rules} {m : Mappings} {d : StructDecl}
  {name target text : String}

/-- The list of an alias does not count. -/
lemma unaliasedList_eq_some_iff :
    unaliasedList d = some text ↔ d.aliasOf = none ∧ d.extended = some text := by
  unfold unaliasedList
  cases d.aliasOf <;> simp

/-- A list counts where it is there and the struct is no alias. -/
lemma isSome_unaliasedList : (unaliasedList d).isSome = true ↔ d.aliasOf = none ∧ d.extended.isSome = true := by
  unfold unaliasedList
  cases d.aliasOf <;> simp

/-- An alias has no list that counts, whatever it states. -/
lemma unaliasedList_of_alias (stands : d.aliasOf = some target) : unaliasedList d = none := by
  unfold unaliasedList
  rw [stands]
  rfl

/-! ## The graph of the lists -/

/-- The declarations that count are those that are not disabled, since a list without an aggregator disables
the name that states it. -/
lemma mem_countingStructs_iff :
    d ∈ countingStructs reg (.compute reg rules) rules ↔
      d ∈ reg.structs ∧ (DisabledSet.compute reg rules).contains d.name = false := by
  simp only [countingStructs, extendingStructs, namedStructs, List.mem_filter, Bool.not_eq_true']
  constructor
  · exact And.left
  · intro h
    exact ⟨h, DisabledSet.extends_of_enabled h.1 h.2⟩

/-- The aliases that count, as edges. -/
def listGraph (reg : Registry) (rules : Rules) : AliasGraph :=
  .ofPairs (aliasEdges (countingStructs reg (.compute reg rules) rules))

/-- The lists that count for themselves. -/
def ownLists (reg : Registry) (rules : Rules) : NameTable :=
  ownTexts StructDecl.extended (countingStructs reg (.compute reg rules) rules)

section graph
variable (distinct : reg.structNames.Nodup)

include distinct

/-- The edges go out from aliases that are not disabled. -/
lemma target?_listGraph :
    (listGraph reg rules).target? name = some target ↔ ∃ d, reg.structDecl? name = some d ∧
      (DisabledSet.compute reg rules).contains name = false ∧ d.aliasOf = some target := by
  refine (target?_aliasEdges (nodup_countingStructs distinct)).trans ?_
  simp only [mem_countingStructs_iff, Registry.structDecl?_eq_some_iff distinct]
  constructor
  · intro h
    obtain ⟨d, ⟨declared, on⟩, rfl, stands⟩ := h
    exact ⟨d, ⟨declared, rfl⟩, on, stands⟩
  · intro h
    obtain ⟨d, ⟨declared, rfl⟩, on, stands⟩ := h
    exact ⟨d, ⟨declared, on⟩, rfl, stands⟩

/-- Lists of their own have the structs that are no aliases and not disabled. -/
lemma get?_ownLists :
    (ownLists reg rules).get? name = some text ↔ ∃ d, reg.structDecl? name = some d ∧
      (DisabledSet.compute reg rules).contains name = false ∧ d.aliasOf = none ∧ d.extended = some text := by
  refine (get?_ownTexts (nodup_countingStructs distinct)).trans ?_
  simp only [mem_countingStructs_iff, Registry.structDecl?_eq_some_iff distinct]
  constructor
  · intro h
    obtain ⟨d, ⟨declared, on⟩, rfl, own⟩ := h
    exact ⟨d, ⟨declared, rfl⟩, on, own⟩
  · intro h
    obtain ⟨d, ⟨declared, rfl⟩, on, own⟩ := h
    exact ⟨d, ⟨declared, on⟩, rfl, own⟩

variable (built : Built reg (.compute reg rules) closure rules m)

include built

/-- Every name answers what it resolves to. -/
lemma extendedOf?_eq_resolve :
    m.extendedOf? name = (listGraph reg rules).resolve (ownLists reg rules).get? name := by
  rw [extendedOf?, built.extended, get?_collectExtended]
  split
  next => rfl
  next unnamed =>
    -- a name that is undeclared or disabled has neither a list nor an edge
    have absent : ∀ d, reg.structDecl? name = some d →
        (DisabledSet.compute reg rules).contains name = false → False := by
      intro d found on
      obtain ⟨declared, rfl⟩ := Registry.mem_structs_of_structDecl? found
      apply unnamed
      exact List.mem_map_of_mem (List.mem_filter.2 ⟨declared, by rw [on]; rfl⟩)
    have stop : (listGraph reg rules).target? name = none := by
      apply Option.eq_none_iff_forall_ne_some.2
      intro target hop
      obtain ⟨d, found, on, _⟩ := (target?_listGraph distinct).1 hop
      exact absent d found on
    rw [AliasGraph.resolve_of_end stop]
    symm
    apply Option.eq_none_iff_forall_ne_some.2
    intro text states
    obtain ⟨d, found, on, _⟩ := (get?_ownLists distinct).1 states
    exact absent d found on

/-- A struct that is no alias answers its own list. -/
lemma extendedOf?_of_own (found : reg.structDecl? name = some d)
    (on : (DisabledSet.compute reg rules).contains name = false) (own : d.aliasOf = none) :
    m.extendedOf? name = d.extended := by
  have stop : (listGraph reg rules).target? name = none := by
    apply Option.eq_none_iff_forall_ne_some.2
    intro target hop
    obtain ⟨d', found', _, stands⟩ := (target?_listGraph distinct).1 hop
    cases found.symm.trans found'
    cases own.symm.trans stands
  rw [extendedOf?_eq_resolve distinct built, AliasGraph.resolve_of_end stop]
  apply Option.ext
  intro text
  rw [get?_ownLists distinct]
  constructor
  · intro h
    obtain ⟨d', found', _, _, states⟩ := h
    cases found.symm.trans found'
    exact states
  · exact fun states => ⟨d, found, on, own, states⟩

/-- An alias answers what the name that it stands for answers, whatever it states itself. -/
lemma extendedOf?_of_alias (found : reg.structDecl? name = some d)
    (on : (DisabledSet.compute reg rules).contains name = false) (stands : d.aliasOf = some target) :
    m.extendedOf? name = m.extendedOf? target := by
  have bare : (ownLists reg rules).get? name = none := by
    apply Option.eq_none_iff_forall_ne_some.2
    intro text states
    obtain ⟨d', found', _, own, _⟩ := (get?_ownLists distinct).1 states
    cases found.symm.trans found'
    cases own.symm.trans stands
  have hop : (listGraph reg rules).target? name = some target :=
    (target?_listGraph distinct).2 ⟨d, found, on, stands⟩
  rw [extendedOf?_eq_resolve distinct built, extendedOf?_eq_resolve distinct built,
    AliasGraph.resolve_of_step bare hop]

/-! ## Answers along the chain -/

/-- The answer for a name is the list of the struct at the end of its chain. -/
lemma extendedOf?_eq_some_iff :
    m.extendedOf? name = some text ↔
      ∃ d, FirstStating reg (.compute reg rules) unaliasedList name d ∧ d.extended = some text := by
  constructor
  · intro answered
    rw [extendedOf?_eq_resolve distinct built, AliasGraph.resolve_eq_some_iff] at answered
    induction answered with
    | here states =>
      obtain ⟨d, found, on, own, states⟩ := (get?_ownLists distinct).1 states
      have stated : unaliasedList d = some _ := unaliasedList_eq_some_iff.2 ⟨own, states⟩
      exact ⟨d, .here found on (by rw [stated]; rfl), states⟩
    | step _ hop _ ih =>
      obtain ⟨d, found, on, stands⟩ := (target?_listGraph distinct).1 hop
      obtain ⟨last, rest, states⟩ := ih
      exact ⟨last, .further found on (unaliasedList_of_alias stands) stands rest, states⟩
  · intro h
    obtain ⟨last, first, states⟩ := h
    induction first with
    | here found on own =>
      rw [extendedOf?_of_own distinct built found on (isSome_unaliasedList.1 own).1]
      exact states
    | further found on _ stands _ ih =>
      rw [extendedOf?_of_alias distinct built found on stands]
      exact ih states

/-- A name answers what the first declaration answers that states a list on its chain. -/
lemma extendedOf?_of_firstStating
    (first : FirstStating reg (.compute reg rules) StructDecl.extended name d) :
    m.extendedOf? name = m.extendedOf? d.name := by
  induction first with
  | here found =>
    obtain ⟨_, rfl⟩ := Registry.mem_structs_of_structDecl? found
    rfl
  | further found on _ stands _ ih => rw [extendedOf?_of_alias distinct built found on stands, ih]

end graph

/-- Where a struct at the end of a chain states a list, some declaration on the chain is the first to do so. -/
lemma exists_firstStating {disabled : DisabledSet} (last : FirstStating reg disabled unaliasedList name d) :
    ∃ d', FirstStating reg disabled StructDecl.extended name d' := by
  induction last with
  | @here name d found on own => exact ⟨d, .here found on (isSome_unaliasedList.1 own).2⟩
  | @further name target d last found on _ stands _ ih =>
    obtain ⟨first, rest⟩ := ih
    cases states : d.extended with
    | none => exact ⟨first, .further found on states stands rest⟩
    | some text => exact ⟨d, .here found on (by rw [states]; rfl)⟩

/-- The first declaration along a chain that states something is declared under its name and not disabled. -/
lemma FirstStating.last {disabled : DisabledSet} {text? : StructDecl → Option String}
    (first : FirstStating reg disabled text? name d) :
    reg.structDecl? d.name = some d ∧ disabled.contains d.name = false ∧ (text? d).isSome = true := by
  induction first with
  | here found on states =>
    obtain ⟨_, rfl⟩ := Registry.mem_structs_of_structDecl? found
    exact ⟨found, on, states⟩
  | further _ _ _ _ _ ih => exact ih

/-- The list of a name is the one at the end of its alias chain. It is the first one that is stated on the chain
exactly where that one is stated by no alias, or by an alias whose chain ends at the same list. -/
theorem firstListAnswered_iff (distinct : reg.structNames.Nodup)
    (done : build reg (.compute reg rules) closure rules = .ok m) :
    (∀ name text, m.extendedOf? name = some text ↔
      ∃ d, FirstStating reg (.compute reg rules) unaliasedList name d ∧ d.extended = some text) ∧
    ∀ name, FirstListAnswered reg (.compute reg rules) m name ↔
      ∀ d, FirstStating reg (.compute reg rules) StructDecl.extended name d → d.aliasOf ≠ none →
        ∃ last, FirstStating reg (.compute reg rules) unaliasedList d.name last ∧
          last.extended = d.extended := by
  have built := built_of_build done
  refine ⟨fun name text => extendedOf?_eq_some_iff distinct built, fun name => ?_⟩
  constructor
  · intro answered d first _
    obtain ⟨_, _, stated⟩ := first.last
    obtain ⟨text, states⟩ := Option.isSome_iff_exists.1 stated
    have answer : m.extendedOf? d.name = some text := by
      rw [← extendedOf?_of_firstStating distinct built first]
      exact (answered text).2 ⟨d, first, states⟩
    rw [states]
    exact (extendedOf?_eq_some_iff distinct built).1 answer
  · intro agree text
    have answer : ∀ d, FirstStating reg (.compute reg rules) StructDecl.extended name d →
        m.extendedOf? name = d.extended := by
      intro d first
      obtain ⟨found, on, stated⟩ := first.last
      rw [extendedOf?_of_firstStating distinct built first]
      cases stands : d.aliasOf with
      | none => exact extendedOf?_of_own distinct built found on stands
      | some target =>
        obtain ⟨last, ends, same⟩ := agree d first (by rw [stands]; nofun)
        obtain ⟨text, states⟩ := Option.isSome_iff_exists.1 stated
        rw [states]
        exact (extendedOf?_eq_some_iff distinct built).2 ⟨last, ends, same.trans states⟩
    constructor
    · intro answered
      obtain ⟨_, ends, _⟩ := (extendedOf?_eq_some_iff distinct built).1 answered
      obtain ⟨d, first⟩ := exists_firstStating ends
      exact ⟨d, first, (answer d first).symm.trans answered⟩
    · intro h
      obtain ⟨d, first, states⟩ := h
      exact (answer d first).trans states

/-- An alias that states a list of its own. -/
def relisted (extended : String) : Registry where
  structs := [
    { name := "VkPhysicalDeviceShaderFeatures", extended := some "VkPhysicalDeviceFeatures2", members := [] },
    { name := "VkPhysicalDeviceShaderFeaturesKHR", aliasOf := some "VkPhysicalDeviceShaderFeatures",
      extended := some extended, members := [] }]

/-- An alias that repeats the list of its target has the right answer. -/
theorem firstListAnswered_iff_relisted :
    ∃ m, build (relisted "VkPhysicalDeviceFeatures2")
        (.compute (relisted "VkPhysicalDeviceFeatures2") {}) {} {} = .ok m ∧
      FirstListAnswered (relisted "VkPhysicalDeviceFeatures2")
        (.compute (relisted "VkPhysicalDeviceFeatures2") {}) m "VkPhysicalDeviceShaderFeaturesKHR" := by
  have distinct : (relisted "VkPhysicalDeviceFeatures2").structNames.Nodup := by decide
  have done : build (relisted "VkPhysicalDeviceFeatures2")
      (.compute (relisted "VkPhysicalDeviceFeatures2") {}) {} {} = .ok _ := rfl
  refine ⟨_, done, ((firstListAnswered_iff distinct done).2 _).2 ?_⟩
  intro d first _
  cases first with
  | here found =>
    cases found
    -- the chain ends at a struct that states the same list
    exact ⟨_, .further rfl (by decide +kernel) rfl rfl (.here rfl (by decide +kernel) rfl), rfl⟩
  | further found _ bare =>
    cases found
    cases bare

/-- The list that an alias states is the first one on its chain, but it is not the one that is answered. -/
theorem not_firstListAnswered_relisted :
    ∃ m, build (relisted "VkPhysicalDeviceFeatures2,VkDeviceCreateInfo")
        (.compute (relisted "VkPhysicalDeviceFeatures2,VkDeviceCreateInfo") {}) {} {} = .ok m ∧
      ¬ FirstListAnswered (relisted "VkPhysicalDeviceFeatures2,VkDeviceCreateInfo")
        (.compute (relisted "VkPhysicalDeviceFeatures2,VkDeviceCreateInfo") {}) m
        "VkPhysicalDeviceShaderFeaturesKHR" := by
  have distinct : (relisted "VkPhysicalDeviceFeatures2,VkDeviceCreateInfo").structNames.Nodup := by decide
  have done : build (relisted "VkPhysicalDeviceFeatures2,VkDeviceCreateInfo")
      (.compute (relisted "VkPhysicalDeviceFeatures2,VkDeviceCreateInfo") {}) {} {} = .ok _ := rfl
  refine ⟨_, done, fun answered => ?_⟩
  have built := built_of_build done
  have on : (DisabledSet.compute (relisted "VkPhysicalDeviceFeatures2,VkDeviceCreateInfo") {}).contains
      "VkPhysicalDeviceShaderFeaturesKHR" = false := by decide +kernel
  have on' : (DisabledSet.compute (relisted "VkPhysicalDeviceFeatures2,VkDeviceCreateInfo") {}).contains
      "VkPhysicalDeviceShaderFeatures" = false := by decide +kernel
  have answer := (extendedOf?_of_alias distinct built rfl on rfl).trans
    (extendedOf?_of_own distinct built rfl on' rfl)
  have stated := (answered "VkPhysicalDeviceFeatures2,VkDeviceCreateInfo").2 ⟨_, .here rfl on rfl, rfl⟩
  have same : some "VkPhysicalDeviceFeatures2" = some "VkPhysicalDeviceFeatures2,VkDeviceCreateInfo" :=
    answer.symm.trans stated
  exact absurd same (by decide)

end CapabilityRegistry.Mappings
