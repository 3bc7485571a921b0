import CapabilityRegistry.Proofs.Growable.Faults
import CapabilityRegistry.Proofs.Mappings.Build
import Mathlib.Data.List.Forall2

/-!
# Members of the tracked enum

Which names the tracked enum has beyond its declaration. An entry that is no alias adds its name with the value of
its place (`Entry.Adds`); what aliases repeat is owned but not added. The names that are added are those that some
entry adds, each once, with the value of its first entry, and in the order of these entries (`Tracks`). They are
listed behind the enumerants that the enum declares itself, unless they are among these (`ListsMembers`).
-/

namespace CapabilityRegistry.Growable

variable {reg : Registry} {rules : Rules} {g : GrowableEnum} {d : EnumDecl} {found all : List Addition}
  {base : Known} {x : Extension} {e : EnumExtension} {entry : Entry} {name owner : String} {value : Int}

/-! ## What entries add -/

/-- The enumerant that an entry lists. -/
def Entry.enumerant : Entry → EnumExtension
  | .feature _ e => e
  | .extension _ e => e

/-- The number of the extension in whose block the place of an entry is. -/
def Entry.number? : Entry → Option Int
  | .feature _ e => e.extnumber
  | .extension x e => e.extnumber <|> x.number

/-- The entry is no alias, and has this name and a place of this value. -/
structure Entry.Adds (entry : Entry) (name : String) (value : Int) : Prop where
  named : entry.enumerant.name = name
  own : entry.enumerant.aliasOf = none
  placed : ∃ extnumber offset, entry.number? = some extnumber ∧ entry.enumerant.offset = some offset ∧
    value = placeValue extnumber offset entry.enumerant.negative

/-- The name and value that an entry adds. -/
def Entry.pair? (entry : Entry) : Option (String × Int) :=
  if entry.enumerant.aliasOf.isSome then none
  else do
    let extnumber ← entry.number?
    let offset ← entry.enumerant.offset
    return (entry.enumerant.name, placeValue extnumber offset entry.enumerant.negative)

/-- The computed pair of an entry is what it adds. -/
lemma Entry.pair?_eq_some_iff : entry.pair? = some (name, value) ↔ entry.Adds name value := by
  unfold Entry.pair?
  cases stands : entry.enumerant.aliasOf with
  | some target =>
    constructor
    · nofun
    · intro adds
      cases stands.symm.trans adds.own
  | none =>
    constructor
    · intro added
      obtain ⟨extnumber, numbered, added⟩ := Option.bind_eq_some_iff.1 added
      obtain ⟨offset, placed, added⟩ := Option.bind_eq_some_iff.1 added
      cases added
      exact ⟨rfl, stands, extnumber, offset, numbered, placed, rfl⟩
    · rintro ⟨rfl, _, extnumber, offset, numbered, placed, rfl⟩
      rw [numbered, placed]
      rfl

/-- The name and value of an addition that is no alias. -/
def Addition.ownPair? (a : Addition) : Option (String × Int) :=
  if a.isAlias then none else some a.pair

/-- What is found apart from aliases are the pairs that are no aliases'. -/
lemma map_pair_filter : (found.filter (!·.isAlias)).map Addition.pair = found.filterMap Addition.ownPair? := by
  induction found with
  | nil => rfl
  | cons a found ih =>
    rw [List.filter_cons, List.filterMap_cons, Addition.ownPair?, ← ih]
    cases a.isAlias with
    | true => rfl
    | false => rfl

/-- An entry has a pair of its own unless it is an alias. -/
lemma ownPair?_additionOf : (additionOf owner e value).ownPair? =
    if e.aliasOf.isSome then none else some (e.name, value) :=
  rfl

/-- What an entry of a feature gives is its own pair. -/
lemma ownPair?_of_feature {a : Addition} (done : ofFeatureEntry owner e = .ok a) :
    a.ownPair? = (Entry.feature owner e).pair? := by
  obtain ⟨extnumber, offset, numbered, placed, rfl⟩ := ofFeatureEntry_eq_ok done
  rw [ownPair?_additionOf, Entry.pair?, Entry.enumerant, Entry.number?, numbered, placed]
  rfl

/-- What an entry of an extension adds does not depend on what is known when it is read, unless it is an alias. -/
lemma ownPair?_of_extension {known : Known} {a? : Option Addition} (done : ofExtensionEntry known x e = .ok a?) :
    a?.bind Addition.ownPair? = (Entry.extension x e).pair? := by
  obtain ⟨⟨extnumber, numbered⟩, rfl⟩ := ofExtensionEntry_eq_ok done
  rw [Entry.pair?, Entry.enumerant, Entry.number?, numbered, entryValue?, numbered]
  cases stands : e.aliasOf with
  | some target =>
    have left : ∀ value, (additionOf x.name e value).ownPair? = none := by
      intro value
      rw [ownPair?_additionOf, stands]
      rfl
    rw [Option.bind_map]
    exact Option.bind_eq_none_iff.2 fun value _ => left value
  | none =>
    cases placed : e.offset with
    | some offset => simp [ownPair?_additionOf, stands]
    | none => rfl

/-- Entries of extensions are added behind what has been found. -/
lemma filterMap_addExtensionEntries {listed : List (Extension × EnumExtension)}
    (done : addExtensionEntries base found listed = .ok all) :
    all.filterMap Addition.ownPair? =
      found.filterMap Addition.ownPair? ++ (listed.map fun (x, e) => Entry.extension x e).filterMap Entry.pair? := by
  induction listed generalizing found with
  | nil =>
    cases done
    exact (List.append_nil _).symm
  | cons entry listed ih =>
    obtain ⟨x, e⟩ := entry
    obtain ⟨a?, step, done⟩ := bind_eq_ok.1 done
    have added : a?.toList.filterMap Addition.ownPair? = ((Entry.extension x e).pair?).toList := by
      rw [← ownPair?_of_extension step]
      cases a? with
      | none => rfl
      | some a =>
        show [a].filterMap Addition.ownPair? = a.ownPair?.toList
        rw [List.filterMap_cons]
        cases a.ownPair? with
        | none => rfl
        | some pair => rfl
    rw [ih done, List.filterMap_append, added, List.append_assoc, List.map_cons, List.filterMap_cons]
    cases (Entry.extension x e).pair? with
    | none => rfl
    | some pair => rfl

/-- What is found without being an alias is what the entries add, one after the other. -/
lemma filterMap_additions (added : additions reg d = .ok found) :
    found.filterMap Addition.ownPair? = (entries reg d.name).filterMap Entry.pair? := by
  obtain ⟨features, read, done⟩ := bind_eq_ok.1 added
  rw [filterMap_addExtensionEntries done, entries, List.filterMap_append]
  congr 1
  rw [List.filterMap_map]
  exact filterMap_eq_of_mapM ownPair?_of_feature read

/-! ## What is added to the enum -/

/-- Some entry adds the one name, and no entry up to it adds the other. -/
def FoundBefore (listed : List Entry) (name other : String) : Prop :=
  ∃ before entry, before ++ [entry] <+: listed ∧ (∃ value, entry.Adds name value) ∧
    ∀ earlier ∈ before ++ [entry], ∀ value, ¬ earlier.Adds other value

/-- An entry that is no alias, in a feature or with an offset in an extension that is not disabled, has this
name. -/
def Recorded (reg : Registry) (enumName name : String) : Prop :=
  (∃ f ∈ reg.features, ∃ e ∈ f.requires.enums, e.enumName = enumName ∧ e.aliasOf = none ∧ e.name = name) ∨
  ∃ x ∈ reg.extensions, x.supported ≠ "disabled" ∧ ∃ e ∈ x.requires.enums, e.enumName = enumName ∧
    e.aliasOf = none ∧ e.offset ≠ none ∧ e.name = name

/-- What the tracked enum adds to its declaration. -/
structure Tracks (reg : Registry) (rules : Rules) (g : GrowableEnum) : Prop where
  distinct : (g.added.map (·.1)).Nodup
  recorded : ∀ name, name ∈ g.added.map (·.1) ↔ Recorded reg rules.growableEnum name
  first : ∀ name value, (name, value) ∈ g.added ↔
    FirstGiven (fun entry => entry.Adds name) (entries reg rules.growableEnum) value
  ordered : g.added.Pairwise fun a b => FoundBefore (entries reg rules.growableEnum) a.1 b.1
  owned : ∀ pair ∈ g.added, ∃ owner, g.Lists owner pair

/-- The added values are the first ones that the entries give to each name. -/
lemma Collected.added_eq (collected : Collected reg rules d found g) :
    g.added = distinctOn (·.1) ((entries reg rules.growableEnum).filterMap Entry.pair?) := by
  rw [collected.added, map_pair_filter, filterMap_additions collected.additions, collected.name_eq]

/-- An entry passes a name by where it adds no value under it. -/
lemma any_pair?_eq_false_iff : entry.pair?.any (·.1 == name) = false ↔ ∀ value, ¬ entry.Adds name value := by
  simp only [← Entry.pair?_eq_some_iff]
  cases entry.pair? with
  | none => exact ⟨fun _ => nofun, fun _ => rfl⟩
  | some pair =>
    obtain ⟨name', value'⟩ := pair
    simp

/-- The pair that is kept of a name is the one that its first entry adds. -/
lemma mem_distinctOn_filterMap {listed : List Entry} :
    (name, value) ∈ distinctOn (·.1) (listed.filterMap Entry.pair?) ↔
      FirstGiven (fun entry => entry.Adds name) listed value := by
  rw [mem_distinctOn_iff, List.find?_filterMap, Option.bind_eq_some_iff]
  simp only [List.find?_eq_some_iff_append, Bool.not_eq_true', any_pair?_eq_false_iff]
  constructor
  · rintro ⟨entry, ⟨_, before, after, split, others⟩, adds⟩
    exact ⟨before, entry, after, split, Entry.pair?_eq_some_iff.1 adds, others⟩
  · rintro ⟨before, entry, after, split, adds, others⟩
    have added := Entry.pair?_eq_some_iff.2 adds
    refine ⟨entry, ⟨?_, before, after, split, others⟩, added⟩
    rw [added, Option.any_some, beq_self_eq_true]

/-- What stands before all pairs of a name is found before the name. -/
lemma foundBefore_of_prefix {listed : List Entry} {a b : String × Int} {before : List (String × Int)}
    (start : before ++ [a] <+: listed.filterMap Entry.pair?) (others : ∀ c ∈ before ++ [a], c.1 ≠ b.1) :
    FoundBefore listed a.1 b.1 := by
  obtain ⟨after, eq⟩ := start
  rw [List.append_assoc] at eq
  obtain ⟨first, second, rfl, firstPairs, eq⟩ := List.filterMap_eq_append_iff.1 eq.symm
  obtain ⟨silent, entry, third, rfl, none, added, _⟩ := List.filterMap_eq_cons_iff.1 eq
  have pairs : (first ++ silent ++ [entry]).filterMap Entry.pair? = before ++ [a] := by
    rw [List.filterMap_append, List.filterMap_append, firstPairs, List.filterMap_eq_nil_iff.2 none,
      List.append_nil, List.filterMap_cons_some added, List.filterMap_nil]
  refine ⟨first ++ silent, entry, ⟨third, by simp⟩, ⟨a.2, Entry.pair?_eq_some_iff.1 added⟩, ?_⟩
  intro earlier mem value adds
  have held : (b.1, value) ∈ before ++ [a] :=
    pairs ▸ List.mem_filterMap.2 ⟨earlier, mem, Entry.pair?_eq_some_iff.2 adds⟩
  exact others _ held rfl

/-- The added names are those of the entries. -/
lemma Collected.mem_names_iff (collected : Collected reg rules d found g) :
    name ∈ g.added.map (·.1) ↔ ∃ entry ∈ entries reg rules.growableEnum, ∃ value, entry.Adds name value := by
  rw [collected.added_eq, mem_map_distinctOn, List.mem_map]
  constructor
  · rintro ⟨⟨_, value⟩, mem, rfl⟩
    obtain ⟨entry, listed, added⟩ := List.mem_filterMap.1 mem
    exact ⟨entry, listed, value, Entry.pair?_eq_some_iff.1 added⟩
  · rintro ⟨entry, listed, value, adds⟩
    exact ⟨(name, value), List.mem_filterMap.2 ⟨entry, listed, Entry.pair?_eq_some_iff.2 adds⟩, rfl⟩

/-- An entry adds its name unless it is an alias or, in an extension, has no offset: in an enum that has been
collected all of them have their numbers. -/
lemma Collected.recorded_iff (collected : Collected reg rules d found g) :
    (∃ entry ∈ entries reg rules.growableEnum, ∃ value, entry.Adds name value) ↔
      Recorded reg rules.growableEnum name := by
  have tracked := collected.name_eq
  constructor
  · rintro ⟨entry, mem, value, named, own, extnumber, offset, numbered, placed, _⟩
    obtain feature | extension := List.mem_append.1 mem
    · obtain ⟨⟨owner, e⟩, listed, rfl⟩ := List.mem_map.1 feature
      obtain ⟨f, held, _, required, extended⟩ := mem_featureEntries.1 listed
      exact .inl ⟨f, held, e, required, extended, own, named⟩
    · obtain ⟨⟨x, e⟩, listed, rfl⟩ := List.mem_map.1 extension
      obtain ⟨held, enabled, required, extended⟩ := mem_extensionEntries.1 listed
      have offset : e.offset ≠ none := fun missing => Option.some_ne_none _ (placed.symm.trans missing)
      exact .inr ⟨x, held, enabled, e, required, extended, own, offset, named⟩
  · rintro (⟨f, held, e, required, extended, own, named⟩ |
      ⟨x, held, enabled, e, required, extended, own, offset, named⟩)
    · have listed := mem_featureEntries.2 ⟨f, held, rfl, required, extended⟩
      obtain ⟨extnumber, offset, numbered, placed⟩ := exists_place collected.additions (tracked ▸ listed)
      have adds : (Entry.feature f.name e).Adds name (placeValue extnumber offset e.negative) :=
        ⟨named, own, extnumber, offset, numbered, placed, rfl⟩
      exact ⟨_, List.mem_append_left _ (List.mem_map.2 ⟨_, listed, rfl⟩), _, adds⟩
    · have listed := mem_extensionEntries.2 ⟨held, enabled, required, extended⟩
      obtain ⟨extnumber, numbered⟩ := exists_number collected.additions (tracked ▸ listed)
      obtain ⟨offset, placed⟩ := Option.ne_none_iff_exists'.1 offset
      have adds : (Entry.extension x e).Adds name (placeValue extnumber offset e.negative) :=
        ⟨named, own, extnumber, offset, numbered, placed, rfl⟩
      exact ⟨_, List.mem_append_right _ (List.mem_map.2 ⟨_, listed, rfl⟩), _, adds⟩

/-- The collected enum tracks what the registry records. -/
lemma tracks_of_collected (collected : Collected reg rules d found g) : Tracks reg rules g := by
  constructor
  case distinct =>
    rw [collected.added]
    exact nodup_map_distinctOn
  case recorded =>
    intro name
    exact collected.mem_names_iff.trans collected.recorded_iff
  case first =>
    intro name value
    rw [collected.added_eq]
    exact mem_distinctOn_filterMap
  case ordered =>
    rw [collected.added_eq]
    refine pairwise_distinctOn.imp fun {a b} h => ?_
    obtain ⟨before, start, others⟩ := h
    exact foundBefore_of_prefix start others
  case owned =>
    intro pair mem
    rw [collected.added] at mem
    obtain ⟨a, kept, rfl⟩ := List.mem_map.1 (distinctOn_subset mem)
    exact ⟨a.owner, collected.lists_iff.2 (.inr ⟨a, (List.mem_filter.1 kept).1, rfl, rfl⟩)⟩

end CapabilityRegistry.Growable

namespace CapabilityRegistry.Mappings
open Growable

variable {reg : Registry} {disabled : DisabledSet} {closure : DependencyClosure} {rules : Rules}
  {m : Mappings} {g : GrowableEnum} {d : EnumDecl}

/-! ## Enumerants -/

/-- The enumerants of a declared enum: its own ones, and behind them those that are added to it, if it is the
tracked enum, without those that it declares itself. -/
structure ListsMembers (g : GrowableEnum) (d : EnumDecl) (listed : EnumMembership) : Prop where
  name : listed.name = d.name
  members : ∃ more, listed.members = d.members.map (·.name) ++ more ∧
    (d.name ≠ g.name → more = []) ∧
    (d.name = g.name → more.Nodup ∧ more.Sublist (g.added.map (·.1)) ∧
      ∀ name, name ∈ more ↔ name ∈ g.added.map (·.1) ∧ name ∉ d.members.map (·.name))

/-- Nothing is added to other enums. -/
lemma addedTo_of_ne (other : d.name ≠ g.name) : addedTo (some g) d = [] :=
  if_neg (Ne.symm other)

/-- The tracked enum gets the added names that it does not declare itself. -/
lemma map_addedTo (same : d.name = g.name) :
    (addedTo (some g) d).map (·.1) =
      (g.added.map (·.1)).filter fun name => !(d.members.map (·.name)).contains name := by
  rw [addedTo, if_pos same.symm, List.filter_map]
  rfl

/-- The members of an enum are its own ones and then the added ones. -/
lemma listsMembers_collectEnumMembers (distinct : (g.added.map (·.1)).Nodup) :
    ListsMembers g d ⟨d.name, d.members.map (·.name) ++ (addedTo (some g) d).map (·.1)⟩ := by
  refine ⟨rfl, _, rfl, ?_, ?_⟩
  · intro other
    rw [addedTo_of_ne other, List.map_nil]
  · intro same
    rw [map_addedTo same]
    refine ⟨distinct.filter _, List.filter_sublist, fun name => ?_⟩
    rw [List.mem_filter, Bool.not_eq_true', ← Bool.not_eq_true, List.contains_iff_mem]

/-- Where a build succeeds with a tracked enum, the names added to it are distinct, they are those of the entries
that are recorded without being aliases, each has the value of its first entry and is owned with it, and they
stand in the order of these entries. The enums that members use list their own enumerants, and the tracked enum
lists behind them the names that are added and that it does not declare itself. -/
theorem membership_of_build (done : build reg disabled closure rules = .ok m) (tracked : m.growable = some g) :
    Tracks reg rules g ∧
      List.Forall₂ (ListsMembers g) (reg.enums.filter (closure.usesEnum ·.name)) m.enumMembers := by
  have built := built_of_build done
  have collection := built.growable
  rw [tracked] at collection
  obtain ⟨d, found, collected⟩ := collected_of_collect collection
  have tracks := tracks_of_collected collected
  refine ⟨tracks, ?_⟩
  rw [built.enumMembers, tracked, collectEnumMembers, List.forall₂_map_right_iff, List.forall₂_same]
  intro d _
  exact listsMembers_collectEnumMembers tracks.distinct

/-- An enum that is not tracked. -/
def orderEnum : EnumDecl where
  name := "VkOrder"
  kind := "enum"
  members := [⟨"VK_ORDER_FIRST", .value "0"⟩]

/-- An alias comes before the entry of its own name, a name is added twice with different values, and one that is
added is declared by the enum itself. -/
def overlapping : Registry where
  enums := [baseFormats, orderEnum]
  features := [
    { name := "VK_VERSION_1_1", api := "vulkan",
      requires := ⟨[], [{ name := "VK_FORMAT_B", enumName := "VkFormat", extnumber := some 157,
                          offset := some 0 }]⟩ }]
  extensions := [
    { name := "VK_EXT_a", number := some 341, supported := "vulkan",
      requires := ⟨[], [
        { name := "VK_FORMAT_C", enumName := "VkFormat", aliasOf := some "VK_FORMAT_B" },
        { name := "VK_FORMAT_B", enumName := "VkFormat", offset := some 0 },
        { name := "VK_FORMAT_R4G4_UNORM_PACK8", enumName := "VkFormat", offset := some 1 }]⟩ },
    { name := "VK_EXT_b", number := some 342, supported := "vulkan",
      requires := ⟨[], [{ name := "VK_FORMAT_C", enumName := "VkFormat", offset := some 0 }]⟩ }]

/-- Both enums are used. -/
def bothEnums : DependencyClosure where
  enums := ["VkFormat", "VkOrder"]

/-- An alias that comes first, a name with two values and a declared one: each name is added once, with its
first value. -/
theorem membership_of_build_overlapping :
    ∃ m g, build overlapping {} bothEnums {} = .ok m ∧ m.growable = some g ∧
      g.added = [("VK_FORMAT_B", 1000156000), ("VK_FORMAT_R4G4_UNORM_PACK8", 1000340001),
        ("VK_FORMAT_C", 1000341000)] ∧
      Tracks overlapping {} g ∧
      List.Forall₂ (ListsMembers g) (overlapping.enums.filter (bothEnums.usesEnum ·.name)) m.enumMembers := by
  have declared : overlapping.enumDecl? ({} : Rules).growableEnum = some baseFormats := by decide +kernel
  have added : additions overlapping baseFormats = .ok _ := rfl
  obtain ⟨g, collection, collected⟩ := collect_of_additions declared added
  have succeeds : ∀ err, build overlapping {} bothEnums {} ≠ .error err := by
    intro err failed
    cases (build_eq_error_iff_collect.1 failed).symm.trans collection
  obtain ⟨m, done⟩ := exists_ok_iff.2 succeeds
  have tracked : m.growable = some g := Except.ok.inj ((built_of_build done).growable.symm.trans collection)
  exact ⟨m, g, done, tracked, collected.added, membership_of_build done tracked⟩

end CapabilityRegistry.Mappings
