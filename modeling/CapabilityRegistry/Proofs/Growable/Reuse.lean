import CapabilityRegistry.Proofs.Growable.Entries

/-!
# Aliases and the order of the document

Which value a registry gives to a name does not depend on the order of its declarations (`Given`); what is
known when an alias is read does. Owners list nothing but what is theirs in any order, and the aliases of
extensions have the values of their targets exactly when the order of the document keeps nothing back
(`reusesAliases_iff`). It keeps nothing back where every alias stands behind its target (`TargetsFirst`). An
alias that stands before its target is left out (`not_reusesAliases_early`).
-/

namespace CapabilityRegistry.Growable

variable {reg : Registry} {rules : Rules} {g : GrowableEnum} {d : EnumDecl} {x : Extension}
  {e : EnumExtension} {owner name target : String} {value : Int}

/-- The entry is an alias of a name, without an offset of its own. -/
def Reuses (e : EnumExtension) (target : String) : Prop :=
  e.offset = none ∧ e.aliasOf = some target

/-- The registry gives a name a value, wherever it does so: the enum declares it, an entry has a place for
it, or an extension has it as an alias of a name with that value. -/
inductive Given (reg : Registry) (rules : Rules) : String → Int → Prop where
  | base {d : EnumDecl} {m : EnumMember} {value : Int}
      (declared : reg.enumDecl? rules.growableEnum = some d) (member : m ∈ d.members)
      (number : m.value.number? = some value) :
      Given reg rules m.name value
  | placed {owner name : String} {value : Int} (placed : Placed reg rules.growableEnum owner name value) :
      Given reg rules name value
  | reused {x : Extension} {e : EnumExtension} {target : String} {value : Int}
      (listed : (x, e) ∈ extensionEntries reg rules.growableEnum) (reuses : Reuses e target)
      (given : Given reg rules target value) :
      Given reg rules e.name value

/-- A value is an owner's, by name, whatever the order of the document. -/
inductive Owned (reg : Registry) (rules : Rules) : String → String → Int → Prop where
  | base {d : EnumDecl} {m : EnumMember} {value : Int}
      (declared : reg.enumDecl? rules.growableEnum = some d) (member : m ∈ d.members)
      (number : m.value.number? = some value) (nonzero : value ≠ 0) :
      Owned reg rules baseVersionOwner m.name value
  | placed {owner name : String} {value : Int} (placed : Placed reg rules.growableEnum owner name value) :
      Owned reg rules owner name value
  | reused {x : Extension} {e : EnumExtension} {target : String} {value : Int}
      (listed : (x, e) ∈ extensionEntries reg rules.growableEnum) (reuses : Reuses e target)
      (given : Given reg rules target value) :
      Owned reg rules x.name e.name value

/-- Every alias of an extension that is not disabled has all values that its target is given. -/
def ReusesAliases (reg : Registry) (rules : Rules) (g : GrowableEnum) : Prop :=
  ∀ x ∈ reg.extensions, x.supported ≠ "disabled" → ∀ e ∈ x.requires.enums,
    e.enumName = rules.growableEnum → ∀ target, Reuses e target → ∀ value, Given reg rules target value →
      g.Lists x.name (e.name, value)

/-- The values known at the start are given by the declaration or by features. -/
lemma given_of_knownFirst (declared : reg.enumDecl? rules.growableEnum = some d)
    (known : (name, value) ∈ knownFirst reg d) : Given reg rules name value := by
  have tracked : d.name = rules.growableEnum := by simpa using List.find?_some declared
  obtain base | feature := List.mem_append.1 known
  · obtain ⟨m, member, same⟩ := List.mem_filterMap.1 (List.mem_reverse.1 base)
    obtain ⟨_, number, same⟩ := Option.map_eq_some_iff.1 same
    cases same
    exact .base declared member number
  · obtain ⟨⟨owner, e⟩, listed, same⟩ := List.mem_filterMap.1 feature
    obtain ⟨_, valued, same⟩ := Option.map_eq_some_iff.1 same
    cases same
    obtain ⟨extnumber, numbered, valued⟩ := Option.bind_eq_some_iff.1 valued
    obtain ⟨offset, placed, valued⟩ := Option.bind_eq_some_iff.1 valued
    cases valued
    obtain ⟨f, held, rfl, required, extended⟩ := mem_featureEntries.1 listed
    exact .placed (.feature held required (extended.trans tracked) numbered placed)

/-- What is known behind some of the entries is given. -/
lemma given_of_valueBehind (declared : reg.enumDecl? rules.growableEnum = some d)
    {before : List (Extension × EnumExtension)} (start : before <+: extensionEntries reg rules.growableEnum)
    (known : valueBehind (knownFirst reg d) before.reverse name = some value) :
    Given reg rules name value := by
  induction before using List.reverseRecOn generalizing name with
  | nil => exact given_of_knownFirst declared (mem_of_lookup known)
  | append_singleton before entry ih =>
    obtain ⟨x, e⟩ := entry
    have earlier : before <+: extensionEntries reg rules.growableEnum :=
      (List.prefix_append before _).trans start
    have listed : (x, e) ∈ extensionEntries reg rules.growableEnum := start.subset List.mem_concat_self
    rw [List.reverse_append, List.reverse_singleton, List.singleton_append, valueBehind,
      Option.or_eq_some_iff] at known
    obtain known | ⟨_, known⟩ := known
    · exact ih earlier known
    · split at known
      next same =>
        subst same
        obtain ⟨extnumber, numbered, stands⟩ := Option.bind_eq_some_iff.1 known
        cases placed : e.offset with
        | some offset =>
          rw [placed] at stands
          cases stands
          exact .placed (.extension listed numbered placed)
        | none =>
          rw [placed] at stands
          obtain ⟨target, stands, known⟩ := Option.bind_eq_some_iff.1 stands
          exact .reused listed ⟨placed, stands⟩ (ih earlier known)
      next => cases known

/-- What is entered in the order of the document is owned in any order. -/
lemma Entered.owned (entered : Entered reg rules owner name value) : Owned reg rules owner name value := by
  cases entered with
  | base declared member number nonzero => exact .base declared member number nonzero
  | placed placed => exact .placed placed
  | @reused d before x e target value declared start unplaced stands known =>
    have earlier : before <+: extensionEntries reg rules.growableEnum :=
      (List.prefix_append before _).trans start
    have given := given_of_valueBehind declared earlier known
    exact .reused (start.subset List.mem_concat_self) ⟨unplaced, stands⟩ given

/-! ## Targets that stand first -/

/-- No name is given two values. -/
def Unambiguous (reg : Registry) (rules : Rules) : Prop :=
  ∀ name value value', Given reg rules name value → Given reg rules name value' → value = value'

/-- The entry gives its name a value, wherever it stands. -/
def Gives (reg : Registry) (rules : Rules) (e : EnumExtension) : Prop :=
  (∃ offset, e.offset = some offset) ∨ ∃ target value, Reuses e target ∧ Given reg rules target value

/-- The enum itself or a feature gives a name a value. -/
def GivenFirst (reg : Registry) (rules : Rules) (name : String) : Prop :=
  (∃ d, reg.enumDecl? rules.growableEnum = some d ∧ ∃ m ∈ d.members, m.name = name ∧
    ∃ value, m.value.number? = some value) ∨
  ∃ entry ∈ featureEntries reg rules.growableEnum, entry.2.name = name

/-- Each alias stands behind something that gives its target a value, if anything does. -/
def TargetsFirst (reg : Registry) (rules : Rules) : Prop :=
  ∀ before x e, before ++ [(x, e)] <+: extensionEntries reg rules.growableEnum →
    ∀ target value, Reuses e target → Given reg rules target value →
      GivenFirst reg rules target ∨ ∃ entry ∈ before, entry.2.name = target ∧ Gives reg rules entry.2

variable {known : Known} {found : List Addition}

/-- What is known first stays known. -/
lemma valueBehind_of_lookup {entries : List (Extension × EnumExtension)}
    (first : known.lookup name = some value) : valueBehind known entries name = some value := by
  induction entries with
  | nil => exact first
  | cons entry earlier ih => rw [valueBehind, ih, Option.some_or]

/-- What the enum or a feature gives a value is known first. -/
lemma exists_lookup_of_givenFirst (collected : Collected reg rules d found g)
    (first : GivenFirst reg rules name) : ∃ value, (knownFirst reg d).lookup name = some value := by
  obtain base | feature := first
  · obtain ⟨d', declared, m, member, rfl, value, number⟩ := base
    cases collected.declared.symm.trans declared
    have known : (m.name, value) ∈ knownFirst reg d := by
      refine List.mem_append_left _ (List.mem_reverse.2 (List.mem_filterMap.2 ⟨m, member, ?_⟩))
      rw [number, Option.map_some]
    exact exists_lookup_of_mem known
  · obtain ⟨⟨owner, e⟩, listed, rfl⟩ := feature
    rw [← collected.name_eq] at listed
    obtain ⟨extnumber, offset, numbered, placed⟩ := exists_place collected.additions listed
    have known : (e.name, placeValue extnumber offset e.negative) ∈ knownFirst reg d := by
      refine List.mem_append_right _ (List.mem_filterMap.2 ⟨(owner, e), listed, ?_⟩)
      simp [featureValue?, numbered, placed]
    exact exists_lookup_of_mem known

/-- An entry that gives its name a value stands for one where its target has one. -/
lemma exists_entryValue {valueOf : String → Option Int} (gives : Gives reg rules e)
    (numbered : ∃ extnumber, (e.extnumber <|> x.number) = some extnumber)
    (valued : ∀ target value, Reuses e target → Given reg rules target value →
      ∃ value', valueOf target = some value') :
    ∃ value, entryValue? valueOf x e = some value := by
  obtain ⟨extnumber, numbered⟩ := numbered
  obtain ⟨offset, placed⟩ | ⟨target, value, reuses, given⟩ := gives
  · exact ⟨placeValue extnumber offset e.negative, by simp [entryValue?, numbered, placed]⟩
  · obtain ⟨value', known⟩ := valued target value reuses given
    obtain ⟨unplaced, stands⟩ := reuses
    exact ⟨value', by simp [entryValue?, numbered, unplaced, stands, known]⟩

/-- Where an alias stands behind its target, the target is known when all before it have left their values. -/
lemma TargetsFirst.exists_valueBehind_target (ordered : TargetsFirst reg rules)
    (collected : Collected reg rules d found g) {before : List (Extension × EnumExtension)}
    (start : before ++ [(x, e)] <+: extensionEntries reg rules.growableEnum)
    (left : ∀ entry ∈ before, Gives reg rules entry.2 →
      ∃ value, valueBehind (knownFirst reg d) before.reverse entry.2.name = some value)
    (reuses : Reuses e target) (given : Given reg rules target value) :
    ∃ value', valueBehind (knownFirst reg d) before.reverse target = some value' := by
  obtain first | ⟨entry, listed, rfl, gives⟩ := ordered before x e start target value reuses given
  · obtain ⟨value', first⟩ := exists_lookup_of_givenFirst collected first
    exact ⟨value', valueBehind_of_lookup first⟩
  · exact left entry listed gives

/-- Where targets stand first, every entry that gives its name a value has left one behind it. -/
lemma TargetsFirst.exists_valueBehind (ordered : TargetsFirst reg rules)
    (collected : Collected reg rules d found g) {before : List (Extension × EnumExtension)}
    (start : before <+: extensionEntries reg rules.growableEnum) :
    ∀ entry ∈ before, Gives reg rules entry.2 →
      ∃ value, valueBehind (knownFirst reg d) before.reverse entry.2.name = some value := by
  -- the last of the entries finds what the ones before it have left
  induction before using List.reverseRecOn with
  | nil =>
    intro entry listed
    cases listed
  | append_singleton earlier last ih =>
    obtain ⟨x, e⟩ := last
    intro entry listed gives
    have left := ih ((List.prefix_append earlier _).trans start)
    rw [List.reverse_append, List.reverse_singleton, List.singleton_append, valueBehind]
    cases known : valueBehind (knownFirst reg d) earlier.reverse entry.2.name with
    | some value => exact ⟨value, Option.some_or⟩
    | none =>
      rw [Option.none_or]
      obtain listed | listed := List.mem_append.1 listed
      · obtain ⟨value, known'⟩ := left entry listed gives
        cases known.symm.trans known'
      · cases List.mem_singleton.1 listed
        rw [if_pos rfl]
        have held : (x, e) ∈ extensionEntries reg d.name :=
          collected.name_eq ▸ start.subset List.mem_concat_self
        apply exists_entryValue gives (exists_number collected.additions held)
        intro target value reuses given
        exact ordered.exists_valueBehind_target collected start left reuses given

/-- Where targets stand first and no name is given two values, all that is owned is entered. -/
lemma TargetsFirst.entered (ordered : TargetsFirst reg rules) (done : collect reg rules = .ok (some g))
    (single : Unambiguous reg rules)
    (owned : Owned reg rules owner name value) : Entered reg rules owner name value := by
  obtain ⟨d, found, collected⟩ := collected_of_collect done
  cases owned with
  | base declared member number nonzero => exact .base declared member number nonzero
  | placed placed => exact .placed placed
  | @reused x e target value listed reuses given =>
    obtain ⟨before, start⟩ := exists_prefix_of_mem listed
    have earlier := (List.prefix_append before _).trans start
    have left := ordered.exists_valueBehind collected earlier
    obtain ⟨value', known⟩ := ordered.exists_valueBehind_target collected start left reuses given
    cases single _ _ _ given (given_of_valueBehind collected.declared earlier known)
    exact .reused collected.declared start reuses.1 reuses.2 known

/-! ## Aliases -/

/-- Aliases keep their values exactly where every value that an owner has has been entered. -/
lemma reusesAliases_iff_entered (done : collect reg rules = .ok (some g)) :
    ReusesAliases reg rules g ↔
      ∀ owner name value, Owned reg rules owner name value → Entered reg rules owner name value := by
  constructor
  · intro reuses owner name value owned
    cases owned with
    | base declared member number nonzero => exact .base declared member number nonzero
    | placed placed => exact .placed placed
    | @reused x e target value listed aliased given =>
      obtain ⟨held, enabled, required, tracked⟩ := mem_extensionEntries.1 listed
      exact (lists_iff_entered done).1 (reuses x held enabled e required tracked target aliased value given)
  · intro all x held enabled e required tracked target aliased value given
    have listed := mem_extensionEntries.2 ⟨held, enabled, required, tracked⟩
    exact (lists_iff_entered done).2 (all _ _ _ (.reused listed aliased given))

/-- Owners list nothing that is not theirs. All aliases have the values of their targets exactly when
everything that is owned is entered in the order of the document; in particular where each alias stands
behind its target and no name is given two values. -/
theorem reusesAliases_iff (done : collect reg rules = .ok (some g)) :
    (∀ owner name value, g.Lists owner (name, value) → Owned reg rules owner name value) ∧
      (ReusesAliases reg rules g ↔
        ∀ owner name value, Owned reg rules owner name value → Entered reg rules owner name value) ∧
      (TargetsFirst reg rules → Unambiguous reg rules → ReusesAliases reg rules g) := by
  refine ⟨?_, reusesAliases_iff_entered done, ?_⟩
  · intro owner name value lists
    exact ((lists_iff_entered done).1 lists).owned
  · intro ordered single
    apply (reusesAliases_iff_entered done).2
    intro owner name value owned
    exact ordered.entered done single owned

/-- An extension with one format. -/
def formatExtension (name : String) (number : Int) (format : EnumExtension) : Extension where
  name := name
  number := some number
  supported := "vulkan"
  requires := ⟨[], [format]⟩

/-- A format at the first place of its extension. -/
def firstFormat : EnumExtension where
  name := "VK_FORMAT_A4R4G4B4_UNORM_PACK16_EXT"
  enumName := "VkFormat"
  offset := some 0

/-- An alias of it. -/
def formatAlias : EnumExtension where
  name := "VK_FORMAT_A4R4G4B4_UNORM_PACK16_KHR"
  enumName := "VkFormat"
  aliasOf := some "VK_FORMAT_A4R4G4B4_UNORM_PACK16_EXT"

/-- The extension that has the format. -/
def definingExtension : Extension :=
  formatExtension "VK_EXT_4444_formats" 341 firstFormat

/-- The extension that has the alias. -/
def reusingExtension : Extension :=
  formatExtension "VK_KHR_formats" 340 formatAlias

/-- The alias stands behind its target. -/
def late : Registry where
  enums := [baseFormats]
  extensions := [definingExtension, reusingExtension]

/-- The alias stands before its target. -/
def early : Registry where
  enums := [baseFormats]
  extensions := [reusingExtension, definingExtension]

/-- The example has its two entries in the order of the extensions. -/
lemma extensionEntries_late :
    extensionEntries late "VkFormat" = [(definingExtension, firstFormat), (reusingExtension, formatAlias)] :=
  rfl

/-- In the example the target comes before the alias. -/
lemma targetsFirst_late : TargetsFirst late {} := by
  intro before x e start target value reuses given
  have start' : before ++ [(x, e)] <+: [(definingExtension, firstFormat), (reusingExtension, formatAlias)] :=
    extensionEntries_late ▸ start
  obtain ⟨after, eq⟩ := start'
  rcases before with _ | ⟨first, _ | ⟨second, others⟩⟩
  · cases eq
    exact absurd reuses.1 (by decide)
  · cases eq
    cases reuses.2
    exact .inr ⟨_, List.mem_cons_self, rfl, .inl ⟨0, rfl⟩⟩
  · simp at eq

/-- The names that have values in it. -/
def lateValues : Known :=
  [("VK_FORMAT_UNDEFINED", 0), ("VK_FORMAT_R4G4_UNORM_PACK8", 1),
    ("VK_FORMAT_A4R4G4B4_UNORM_PACK16_EXT", 1000340000), ("VK_FORMAT_A4R4G4B4_UNORM_PACK16_KHR", 1000340000)]

/-- No name of the example has two values. -/
lemma functional_lateValues : Functional lateValues :=
  functional_of_nodup (by decide)

/-- All values of the example are in the list. -/
lemma given_late (given : Given late {} name value) : (name, value) ∈ lateValues := by
  induction given with
  | base declared member number =>
    cases declared
    rcases List.mem_pair.1 member with rfl | rfl
    · have zero : (EnumValue.value "0").number? = some 0 := by decide +kernel
      cases zero.symm.trans number
      decide
    · have one : (EnumValue.value "1").number? = some 1 := by decide +kernel
      cases one.symm.trans number
      decide
  | placed placed =>
    cases placed with
    | feature listed => cases listed
    | extension listed numbered placed =>
      rw [extensionEntries_late] at listed
      rcases List.mem_pair.1 listed with same | same
      · cases same
        cases numbered
        cases placed
        decide
      · cases same
        cases placed
  | reused listed reuses given ih =>
    rw [extensionEntries_late] at listed
    rcases List.mem_pair.1 listed with same | same
    · cases same
      exact absurd reuses.1 (by decide)
    · cases same
      cases reuses.2
      cases functional_lateValues _ _ 1000340000 ih (by decide)
      decide

/-- An alias behind its target keeps its value. -/
theorem reusesAliases_iff_late :
    ∃ g, collect late {} = .ok (some g) ∧ ReusesAliases late {} g := by
  have declared : late.enumDecl? ({} : Rules).growableEnum = some baseFormats := by decide +kernel
  have added : additions late baseFormats = .ok _ := rfl
  obtain ⟨g, done, _⟩ := collect_of_additions declared added
  refine ⟨g, done, (reusesAliases_iff done).2.2 targetsFirst_late ?_⟩
  intro name value value' given given'
  exact functional_lateValues name value value' (given_late given) (given_late given')

/-- What is found where it stands before it. -/
lemma additions_early :
    additions early baseFormats =
      .ok [⟨"VK_EXT_4444_formats", "VK_FORMAT_A4R4G4B4_UNORM_PACK16_EXT", 1000340000, false⟩] := by
  decide +kernel

/-- An alias that stands before its target is left out. -/
theorem not_reusesAliases_early :
    ∃ g, collect early {} = .ok (some g) ∧ ¬ ReusesAliases early {} g := by
  have declared : early.enumDecl? ({} : Rules).growableEnum = some baseFormats := by decide +kernel
  obtain ⟨g, done, collected⟩ := collect_of_additions declared additions_early
  refine ⟨g, done, fun reuses => ?_⟩
  have listed : definingExtension ∈ early.extensions := List.mem_cons_of_mem _ List.mem_cons_self
  have entry := mem_extensionEntries.2 ⟨listed, by decide, List.mem_cons_self, rfl⟩
  have placed : Placed early "VkFormat" definingExtension.name firstFormat.name (placeValue 341 0 false) :=
    .extension entry rfl rfl
  have given : Given early {} "VK_FORMAT_A4R4G4B4_UNORM_PACK16_EXT" 1000340000 := .placed placed
  have lists := reuses reusingExtension List.mem_cons_self (by decide) formatAlias List.mem_cons_self rfl
    _ ⟨rfl, rfl⟩ _ given
  obtain ⟨owner, _⟩ | ⟨a, mem, owner, _⟩ := collected.lists_iff.1 lists
  · exact absurd owner (by decide)
  · cases List.mem_singleton.1 mem
    exact absurd owner (by decide)

end CapabilityRegistry.Growable
