import CapabilityRegistry.Proofs.Growable

/-!
# What entries add

Entries are read in the order of the document. An entry with an offset adds the value of its place, an
alias adds the value by which its target is known when the alias is read (`valueBehind`). The values that
an owner lists are exactly those that are entered so (`lists_iff_entered`). `owners_of_collect` sums up
what holds of all owners.
-/

namespace CapabilityRegistry.Growable

variable {reg : Registry} {rules : Rules} {g : GrowableEnum} {d : EnumDecl} {found all : List Addition}
  {base : Known} {x : Extension} {e : EnumExtension}

/-! ## Places -/

/-- The value of a place, in integers without bounds. -/
def placeValue (extnumber offset : Int) (negative : Bool) : Int :=
  (if negative then -1 else 1) * (1000000000 + (extnumber - 1) * 1000 + offset)

/-- A number that passes the check is unchanged and fits in 64 bits. -/
lemma checked_eq_some {n value : Int} (kept : checked n = some value) :
    value = n ∧ Numeral.fitsInt64 value = true := by
  unfold checked at kept
  split at kept
  next fits =>
    cases kept
    exact ⟨rfl, fits⟩
  next => cases kept

/-- A value that is computed in 64 bits is the one that is meant. -/
lemma extensionValue?_eq_some {extnumber offset value : Int} {negative : Bool}
    (computed : extensionValue? extnumber offset negative = some value) :
    value = placeValue extnumber offset negative ∧ Numeral.fitsInt64 value = true := by
  obtain ⟨block, kept, computed⟩ := Option.bind_eq_some_iff.1 computed
  obtain ⟨start, keptStart, computed⟩ := Option.bind_eq_some_iff.1 computed
  obtain ⟨first, keptFirst, computed⟩ := Option.bind_eq_some_iff.1 computed
  obtain ⟨sum, keptLast, computed⟩ := Option.bind_eq_some_iff.1 computed
  obtain ⟨rfl, _⟩ := checked_eq_some kept
  obtain ⟨rfl, _⟩ := checked_eq_some keptStart
  obtain ⟨rfl, _⟩ := checked_eq_some keptFirst
  obtain ⟨rfl, fits⟩ := checked_eq_some keptLast
  unfold placeValue
  cases negative with
  | false =>
    cases computed
    refine ⟨?_, fits⟩
    rw [if_neg Bool.false_ne_true]
    omega
  | true =>
    obtain ⟨rfl, fits'⟩ := checked_eq_some computed
    refine ⟨?_, fits'⟩
    rw [if_pos rfl]
    omega

/-- What an entry adds for an owner with a value. -/
def additionOf (owner : String) (e : EnumExtension) (value : Int) : Addition :=
  ⟨owner, e.name, value, e.aliasOf.isSome⟩

/-- An entry with a place gets the value of the place, which fits in 64 bits. -/
lemma positioned_eq_ok {owner : String} {extnumber offset : Int} {a : Addition}
    (done : positioned owner e extnumber offset = .ok a) :
    a = additionOf owner e (placeValue extnumber offset e.negative) ∧ Numeral.fitsInt64 a.value = true := by
  unfold positioned at done
  split at done
  next value computed =>
    cases done
    obtain ⟨rfl, fits⟩ := extensionValue?_eq_some computed
    exact ⟨rfl, fits⟩
  next => cases done

/-! ## Features -/

/-- An entry of a feature has both parts of its place, and their value. -/
lemma ofFeatureEntry_eq_ok {owner : String} {a : Addition} (done : ofFeatureEntry owner e = .ok a) :
    ∃ extnumber offset, e.extnumber = some extnumber ∧ e.offset = some offset ∧
      a = additionOf owner e (placeValue extnumber offset e.negative) := by
  unfold ofFeatureEntry at done
  split at done
  next extnumber offset numbered placed =>
    exact ⟨extnumber, offset, numbered, placed, (positioned_eq_ok done).1⟩
  next => cases done

/-! ## Extensions -/

/-- The value that an entry of an extension stands for, where names have values. -/
def entryValue? (valueOf : String → Option Int) (x : Extension) (e : EnumExtension) : Option Int := do
  let extnumber ← e.extnumber <|> x.number
  match e.offset with
  | some offset => some (placeValue extnumber offset e.negative)
  | none => e.aliasOf.bind valueOf

/-- The value of a name behind entries that have been read, the latest one first. A name keeps the first
value that it is given. -/
def valueBehind (known : Known) : List (Extension × EnumExtension) → String → Option Int
  | [], name => known.lookup name
  | (x, e) :: earlier, name =>
    (valueBehind known earlier name).or
      (if name = e.name then entryValue? (valueBehind known earlier) x e else none)

/-- An entry of an extension has its own number or that of the extension, and a value from its place or its
target. -/
lemma ofExtensionEntry_eq_ok {known : Known} {a? : Option Addition}
    (done : ofExtensionEntry known x e = .ok a?) :
    (∃ extnumber, (e.extnumber <|> x.number) = some extnumber) ∧
      a? = (entryValue? (known.lookup ·) x e).map (additionOf x.name e) := by
  unfold ofExtensionEntry at done
  split at done
  next => cases done
  next extnumber offset numbered placed =>
    obtain ⟨a, made, rfl⟩ := map_eq_ok.1 done
    refine ⟨⟨extnumber, numbered⟩, ?_⟩
    rw [(positioned_eq_ok made).1]
    simp [entryValue?, numbered, placed]
  next extnumber target numbered placed stands =>
    cases done
    refine ⟨⟨extnumber, numbered⟩, ?_⟩
    have made : additionOf x.name e = fun value => ⟨x.name, e.name, value, true⟩ := by
      funext value
      rw [additionOf, stands, Option.isSome_some]
    simp [entryValue?, numbered, placed, stands, made]
  next extnumber numbered placed stands =>
    cases done
    refine ⟨⟨extnumber, numbered⟩, ?_⟩
    simp [entryValue?, numbered, placed, stands]

/-- Each item of a list ends some beginning of it. -/
lemma exists_prefix_of_mem {α : Type} {l : List α} {a : α} (mem : a ∈ l) :
    ∃ before, before ++ [a] <+: l := by
  obtain ⟨before, after, eq⟩ := List.append_of_mem mem
  exact ⟨before, after, by rw [eq, List.append_assoc, List.singleton_append]⟩

/-- Entries are read one after the other. -/
lemma addExtensionEntries_append {before after : List (Extension × EnumExtension)} :
    addExtensionEntries base found (before ++ after) = .ok all ↔
      ∃ found', addExtensionEntries base found before = .ok found' ∧
        addExtensionEntries base found' after = .ok all := by
  induction before generalizing found with
  | nil =>
    constructor
    · exact fun done => ⟨found, rfl, done⟩
    · intro h
      obtain ⟨_, same, done⟩ := h
      cases same
      exact done
  | cons entry before ih =>
    obtain ⟨x, e⟩ := entry
    rw [List.cons_append, addExtensionEntries, addExtensionEntries, bind_eq_ok]
    simp only [bind_eq_ok, ih]
    constructor
    · intro h
      obtain ⟨a?, step, found', read, done⟩ := h
      exact ⟨found', ⟨a?, step, read⟩, done⟩
    · intro h
      obtain ⟨found', ⟨a?, step, read⟩, done⟩ := h
      exact ⟨a?, step, found', read, done⟩

/-- The last entry adds its value to what has been read before it. -/
lemma addExtensionEntries_last {before : List (Extension × EnumExtension)}
    (done : addExtensionEntries base found (before ++ [(x, e)]) = .ok all) :
    ∃ found', addExtensionEntries base found before = .ok found' ∧
      (∃ extnumber, (e.extnumber <|> x.number) = some extnumber) ∧
      all = found' ++
        ((entryValue? ((base ++ found'.map Addition.pair).lookup ·) x e).map
          (additionOf x.name e)).toList := by
  obtain ⟨found', read, last⟩ := addExtensionEntries_append.1 done
  obtain ⟨a?, step, last⟩ := bind_eq_ok.1 last
  cases last
  obtain ⟨numbered, rfl⟩ := ofExtensionEntry_eq_ok step
  exact ⟨found', read, numbered, rfl⟩

/-- What one entry adds is found under its name alone. -/
lemma lookup_additionOf {owner name : String} {value? : Option Int} :
    ((value?.map (additionOf owner e)).toList.map Addition.pair).lookup name =
      if name = e.name then value? else none := by
  cases value? with
  | none => rw [ite_self]; rfl
  | some value =>
    show List.lookup name [(e.name, value)] = _
    split
    next same =>
      subst same
      exact List.lookup_cons_self
    next differ =>
      rw [List.lookup_cons, beq_false_of_ne differ]
      rfl

/-- What is known behind entries. -/
lemma lookup_addExtensionEntries {entries : List (Extension × EnumExtension)}
    (done : addExtensionEntries base found entries = .ok all) :
    ((base ++ all.map Addition.pair).lookup ·) =
      valueBehind (base ++ found.map Addition.pair) entries.reverse := by
  induction entries using List.reverseRecOn generalizing all with
  | nil =>
    cases done
    rfl
  | append_singleton before entry ih =>
    obtain ⟨x, e⟩ := entry
    obtain ⟨found', read, _, rfl⟩ := addExtensionEntries_last done
    funext name
    rw [List.reverse_append, List.reverse_singleton, List.singleton_append, valueBehind, ← ih read,
      List.map_append, ← List.append_assoc, List.lookup_append, lookup_additionOf]

/-- What has been added behind entries: each one adds what it stands for when it is read. -/
lemma mem_addExtensionEntries {entries : List (Extension × EnumExtension)} {a : Addition}
    (done : addExtensionEntries base found entries = .ok all) :
    a ∈ all ↔ a ∈ found ∨ ∃ before x e value, before ++ [(x, e)] <+: entries ∧
      entryValue? (valueBehind (base ++ found.map Addition.pair) before.reverse) x e = some value ∧
      a = additionOf x.name e value := by
  induction entries using List.reverseRecOn generalizing all with
  | nil =>
    cases done
    simp
  | append_singleton earlier entry ih =>
    obtain ⟨x, e⟩ := entry
    obtain ⟨found', read, _, rfl⟩ := addExtensionEntries_last done
    rw [List.mem_append, ih read, or_assoc, lookup_addExtensionEntries read, Option.mem_toList,
      Option.map_eq_some_iff]
    apply or_congr_right
    constructor
    · intro h
      obtain h | ⟨value, stands, rfl⟩ := h
      · obtain ⟨before, x', e', value, start, stands, rfl⟩ := h
        exact ⟨before, x', e', value, start.trans (List.prefix_append _ _), stands, rfl⟩
      · exact ⟨earlier, x, e, value, List.prefix_rfl, stands, rfl⟩
    · intro h
      obtain ⟨before, x', e', value, start, stands, rfl⟩ := h
      obtain last | start := List.prefix_concat_iff.1 start
      · obtain ⟨rfl, same⟩ := List.append_inj' last rfl
        cases same
        exact .inr ⟨value, stands, rfl⟩
      · exact .inl ⟨before, x', e', value, start, stands, rfl⟩

/-! ## All entries -/

/-- The value of a feature's entry. -/
def featureValue? (e : EnumExtension) : Option Int := do
  some (placeValue (← e.extnumber) (← e.offset) e.negative)

/-- What is known by name before the first extension is read. Of the values that the enum declares for a
name the last one counts, and all of them come before those of features. -/
def knownFirst (reg : Registry) (d : EnumDecl) : Known :=
  (baseValues d).reverse ++
    (featureEntries reg d.name).filterMap fun (_, e) => (featureValue? e).map (e.name, ·)

/-- Where additions come from. -/
lemma exists_features (added : additions reg d = .ok found) :
    ∃ features, ((featureEntries reg d.name).mapM fun (owner, e) => ofFeatureEntry owner e) = .ok features ∧
      (baseValues d).reverse ++ features.map Addition.pair = knownFirst reg d ∧
      addExtensionEntries (baseValues d).reverse features (extensionEntries reg d.name) = .ok found := by
  obtain ⟨features, read, added⟩ := bind_eq_ok.1 added
  refine ⟨features, read, ?_, added⟩
  have each : features.map (fun a => some a.pair) =
      (featureEntries reg d.name).map fun (_, e) => (featureValue? e).map (e.name, ·) := by
    refine map_eq_map_of_mapM (fun {entry a} done => ?_) read
    obtain ⟨extnumber, offset, numbered, placed, rfl⟩ := ofFeatureEntry_eq_ok done
    simp [featureValue?, numbered, placed, Addition.pair, additionOf]
  rw [knownFirst]
  congr 1
  calc features.map Addition.pair
    _ = (features.map fun a => some a.pair).filterMap id := by
      rw [List.filterMap_map]
      exact congrFun List.filterMap_eq_map.symm features
    _ = _ := by
      rw [each, List.filterMap_map]
      rfl

/-- Every entry of a feature has a place. -/
lemma exists_place (added : additions reg d = .ok found) {owner : String}
    (listed : (owner, e) ∈ featureEntries reg d.name) :
    ∃ extnumber offset, e.extnumber = some extnumber ∧ e.offset = some offset := by
  obtain ⟨features, read, _⟩ := exists_features added
  obtain ⟨a, done⟩ := ok_of_mapM read listed
  obtain ⟨extnumber, offset, numbered, placed, _⟩ := ofFeatureEntry_eq_ok done
  exact ⟨extnumber, offset, numbered, placed⟩

/-- Every entry of an extension has a number. -/
lemma exists_number (added : additions reg d = .ok found)
    (listed : (x, e) ∈ extensionEntries reg d.name) :
    ∃ extnumber, (e.extnumber <|> x.number) = some extnumber := by
  obtain ⟨_, _, _, done⟩ := exists_features added
  obtain ⟨before, after, eq⟩ := exists_prefix_of_mem listed
  rw [← eq] at done
  obtain ⟨_, read, _⟩ := addExtensionEntries_append.1 done
  obtain ⟨_, _, numbered, _⟩ := addExtensionEntries_last read
  exact numbered

/-- What is added: the places of features, and what each entry of an extension stands for when it is
read. -/
lemma mem_additions_iff (added : additions reg d = .ok found) {a : Addition} :
    a ∈ found ↔
      (∃ owner e extnumber offset, (owner, e) ∈ featureEntries reg d.name ∧
        e.extnumber = some extnumber ∧ e.offset = some offset ∧
        a = additionOf owner e (placeValue extnumber offset e.negative)) ∨
      ∃ before x e value, before ++ [(x, e)] <+: extensionEntries reg d.name ∧
        entryValue? (valueBehind (knownFirst reg d) before.reverse) x e = some value ∧
        a = additionOf x.name e value := by
  obtain ⟨features, read, known, done⟩ := exists_features added
  rw [mem_addExtensionEntries done, known, mem_of_mapM read]
  apply or_congr_left
  constructor
  · intro h
    obtain ⟨⟨owner, e⟩, listed, done⟩ := h
    obtain ⟨extnumber, offset, numbered, placed, rfl⟩ := ofFeatureEntry_eq_ok done
    exact ⟨owner, e, extnumber, offset, listed, numbered, placed, rfl⟩
  · intro h
    obtain ⟨owner, e, extnumber, offset, listed, numbered, placed, rfl⟩ := h
    obtain ⟨a, done⟩ := ok_of_mapM read listed
    obtain ⟨extnumber', offset', numbered', placed', rfl⟩ := ofFeatureEntry_eq_ok done
    cases numbered.symm.trans numbered'
    cases placed.symm.trans placed'
    exact ⟨_, listed, done⟩

/-! ## What owners list -/

/-- A feature, or an extension that is not disabled, has an entry for a name whose place has a value. -/
inductive Placed (reg : Registry) (enumName : String) : String → String → Int → Prop where
  | feature {f : Feature} {e : EnumExtension} {extnumber offset : Int} (listed : f ∈ reg.features)
      (required : e ∈ f.requires.enums) (tracked : e.enumName = enumName)
      (numbered : e.extnumber = some extnumber) (placed : e.offset = some offset) :
      Placed reg enumName f.name e.name (placeValue extnumber offset e.negative)
  | extension {x : Extension} {e : EnumExtension} {extnumber offset : Int}
      (listed : (x, e) ∈ extensionEntries reg enumName)
      (numbered : (e.extnumber <|> x.number) = some extnumber) (placed : e.offset = some offset) :
      Placed reg enumName x.name e.name (placeValue extnumber offset e.negative)

/-- What is entered for owners, by name and value, when the document is read in order. An alias without
an offset is entered with the value by which its target is known then, and is left out if there is none. -/
inductive Entered (reg : Registry) (rules : Rules) : String → String → Int → Prop where
  | base {d : EnumDecl} {m : EnumMember} {value : Int}
      (declared : reg.enumDecl? rules.growableEnum = some d) (member : m ∈ d.members)
      (number : m.value.number? = some value) (nonzero : value ≠ 0) :
      Entered reg rules baseVersionOwner m.name value
  | placed {owner name : String} {value : Int} (placed : Placed reg rules.growableEnum owner name value) :
      Entered reg rules owner name value
  | reused {d : EnumDecl} {before : List (Extension × EnumExtension)} {x : Extension}
      {e : EnumExtension} {target : String} {value : Int}
      (declared : reg.enumDecl? rules.growableEnum = some d)
      (start : before ++ [(x, e)] <+: extensionEntries reg rules.growableEnum)
      (unplaced : e.offset = none) (stands : e.aliasOf = some target)
      (known : valueBehind (knownFirst reg d) before.reverse target = some value) :
      Entered reg rules x.name e.name value

/-- The values of a declaration are its numbers other than zero. -/
lemma mem_ownValues {pair : String × Int} :
    pair ∈ ownValues d ↔
      ∃ m ∈ d.members, m.name = pair.1 ∧ m.value.number? = some pair.2 ∧ pair.2 ≠ 0 := by
  obtain ⟨name, value⟩ := pair
  simp only [ownValues, baseValues, List.mem_filter, List.mem_filterMap, Option.map_eq_some_iff,
    Prod.mk.injEq, decide_eq_true_eq]
  constructor
  · intro h
    obtain ⟨⟨m, member, _, number, rfl, rfl⟩, nonzero⟩ := h
    exact ⟨m, member, rfl, number, nonzero⟩
  · intro h
    obtain ⟨m, member, rfl, number, nonzero⟩ := h
    exact ⟨⟨m, member, value, number, rfl, rfl⟩, nonzero⟩

/-- What has been found is entered. -/
lemma Collected.entered (collected : Collected reg rules d found g) {a : Addition} (mem : a ∈ found) :
    Entered reg rules a.owner a.name a.value := by
  have tracked := collected.name_eq
  obtain feature | extension := (mem_additions_iff collected.additions).1 mem
  · obtain ⟨owner, e, extnumber, offset, listed, numbered, placed, rfl⟩ := feature
    obtain ⟨f, held, rfl, required, extended⟩ := mem_featureEntries.1 listed
    exact .placed (.feature held required (extended.trans tracked) numbered placed)
  · obtain ⟨before, x, e, value, start, stands, rfl⟩ := extension
    rw [tracked] at start
    obtain ⟨extnumber, numbered, stands⟩ := Option.bind_eq_some_iff.1 stands
    cases placed : e.offset with
    | some offset =>
      rw [placed] at stands
      cases stands
      exact .placed (.extension (start.subset List.mem_concat_self) numbered placed)
    | none =>
      rw [placed] at stands
      obtain ⟨target, stands, known⟩ := Option.bind_eq_some_iff.1 stands
      exact .reused collected.declared start placed stands known

/-- A value with a place is found. -/
lemma Collected.exists_of_placed (collected : Collected reg rules d found g) {owner name : String}
    {value : Int} (placed : Placed reg rules.growableEnum owner name value) :
    ∃ a ∈ found, a.owner = owner ∧ a.pair = (name, value) := by
  rw [← collected.name_eq] at placed
  cases placed with
  | @feature f e extnumber offset listed required extended numbered placed =>
    have entry := mem_featureEntries.2 ⟨f, listed, rfl, required, extended⟩
    refine ⟨additionOf f.name e (placeValue extnumber offset e.negative), ?_, rfl, rfl⟩
    refine (mem_additions_iff collected.additions).2 (.inl ?_)
    exact ⟨f.name, e, extnumber, offset, entry, numbered, placed, rfl⟩
  | @extension x e extnumber offset listed numbered placed =>
    refine ⟨additionOf x.name e (placeValue extnumber offset e.negative), ?_, rfl, rfl⟩
    refine (mem_additions_iff collected.additions).2 (.inr ?_)
    obtain ⟨before, start⟩ := exists_prefix_of_mem listed
    refine ⟨before, x, e, _, start, ?_, rfl⟩
    simp [entryValue?, numbered, placed]

/-- A value that is reused from an earlier name is found. -/
lemma Collected.exists_of_reused (collected : Collected reg rules d found g)
    {before : List (Extension × EnumExtension)} {target : String} {value : Int}
    (start : before ++ [(x, e)] <+: extensionEntries reg rules.growableEnum) (unplaced : e.offset = none)
    (stands : e.aliasOf = some target)
    (known : valueBehind (knownFirst reg d) before.reverse target = some value) :
    ∃ a ∈ found, a.owner = x.name ∧ a.pair = (e.name, value) := by
  rw [← collected.name_eq] at start
  obtain ⟨extnumber, numbered⟩ := exists_number collected.additions (start.subset List.mem_concat_self)
  refine ⟨additionOf x.name e value, (mem_additions_iff collected.additions).2 (.inr ?_), rfl, rfl⟩
  refine ⟨before, x, e, value, start, ?_, rfl⟩
  simp [entryValue?, numbered, unplaced, stands, known]

/-- Owners list exactly what is entered for them. -/
theorem lists_iff_entered (done : collect reg rules = .ok (some g)) {owner name : String} {value : Int} :
    g.Lists owner (name, value) ↔ Entered reg rules owner name value := by
  obtain ⟨d, found, collected⟩ := collected_of_collect done
  have declared := collected.declared
  rw [collected.lists_iff]
  constructor
  · intro h
    obtain ⟨rfl, own⟩ | ⟨a, mem, rfl, same⟩ := h
    · obtain ⟨m, member, rfl, number, nonzero⟩ := mem_ownValues.1 own
      exact .base declared member number nonzero
    · cases same
      exact collected.entered mem
  · intro h
    cases h with
    | base declared' member number nonzero =>
      cases declared.symm.trans declared'
      exact .inl ⟨rfl, mem_ownValues.2 ⟨_, member, rfl, number, nonzero⟩⟩
    | placed placed => exact .inr (collected.exists_of_placed placed)
    | reused declared' start unplaced stands known =>
      cases declared.symm.trans declared'
      exact .inr (collected.exists_of_reused start unplaced stands known)

/-- The values that the enum declares, and those of entries with an offset, are listed under their
owners. -/
structure ListsPlaces (reg : Registry) (rules : Rules) (g : GrowableEnum) : Prop where
  base : ∃ d, reg.enumDecl? rules.growableEnum = some d ∧
    ∀ m ∈ d.members, ∀ value, m.value.number? = some value → value ≠ 0 →
      g.Lists baseVersionOwner (m.name, value)
  features : ∀ f ∈ reg.features, ∀ e ∈ f.requires.enums, e.enumName = rules.growableEnum →
    ∀ offset, e.offset = some offset → ∃ extnumber, e.extnumber = some extnumber ∧
      g.Lists f.name (e.name, placeValue extnumber offset e.negative)
  extensions : ∀ x ∈ reg.extensions, x.supported ≠ "disabled" → ∀ e ∈ x.requires.enums,
    e.enumName = rules.growableEnum → ∀ offset, e.offset = some offset →
      ∃ extnumber, (e.extnumber <|> x.number) = some extnumber ∧
        g.Lists x.name (e.name, placeValue extnumber offset e.negative)

/-- The owners list the values of all places. -/
lemma listsPlaces_of_collect (done : collect reg rules = .ok (some g)) : ListsPlaces reg rules g := by
  obtain ⟨d, found, collected⟩ := collected_of_collect done
  have tracked := collected.name_eq
  constructor
  case base =>
    refine ⟨d, collected.declared, fun m member value number nonzero => ?_⟩
    exact (lists_iff_entered done).2 (.base collected.declared member number nonzero)
  case features =>
    intro f listed e required extended offset placed
    have entry := mem_featureEntries.2 ⟨f, listed, rfl, required, extended.trans tracked.symm⟩
    obtain ⟨extnumber, _, numbered, _⟩ := exists_place collected.additions entry
    refine ⟨extnumber, numbered, (lists_iff_entered done).2 ?_⟩
    exact .placed (.feature listed required extended numbered placed)
  case extensions =>
    intro x listed enabled e required extended offset placed
    have entry := mem_extensionEntries.2 ⟨listed, enabled, required, extended⟩
    obtain ⟨extnumber, numbered⟩ := exists_number collected.additions (tracked ▸ entry)
    refine ⟨extnumber, numbered, (lists_iff_entered done).2 ?_⟩
    exact .placed (.extension entry numbered placed)

/-- Each owner has one row of values, strictly ordered and cut into ranges as they stand. All values that
the enum declares are in it, and those of all entries with an offset, as integers without bounds have
them. -/
theorem owners_of_collect (done : collect reg rules = .ok (some g)) :
    (g.owners.map (·.owner)).Nodup ∧ (∀ o ∈ g.owners, LaidOut o) ∧ ListsPlaces reg rules g := by
  obtain ⟨d, found, collected⟩ := collected_of_collect done
  refine ⟨?_, ?_, listsPlaces_of_collect done⟩
  · rw [collected.owners]
    exact nodup_owners
  · rw [collected.owners]
    intro o listed
    obtain ⟨name, nonempty, rfl⟩ := mem_owners_iff.1 listed
    exact laidOut_owner nonempty

/-- The values that the registry below starts with. -/
def baseFormats : EnumDecl where
  name := "VkFormat"
  kind := "enum"
  members := [⟨"VK_FORMAT_UNDEFINED", .value "0"⟩, ⟨"VK_FORMAT_R4G4_UNORM_PACK8", .value "1"⟩]

/-- A feature adds a value for the base version, and two extensions of one name add values on both sides
of zero. -/
def sharedOwners : Registry where
  enums := [baseFormats]
  features := [
    { name := "VK_VERSION_1_0", api := "vulkan",
      requires := ⟨[], [{ name := "VK_FORMAT_G8B8G8R8_422_UNORM", enumName := "VkFormat",
                          extnumber := some 157, offset := some 0 }]⟩ }]
  extensions := [
    { name := "VK_EXT_formats", number := some 341, supported := "vulkan",
      requires := ⟨[], [
        { name := "VK_FORMAT_A4B4G4R4_UNORM_PACK16", enumName := "VkFormat", offset := some 1 },
        { name := "VK_FORMAT_A4R4G4B4_UNORM_PACK16", enumName := "VkFormat", offset := some 0 }]⟩ },
    { name := "VK_EXT_formats", number := none, supported := "vulkan",
      requires := ⟨[], [{ name := "VK_FORMAT_A8_UNORM", enumName := "VkFormat", extnumber := some 341,
                          offset := some 0, negative := true }]⟩ }]

/-- Two extensions of one name make one owner, with values on both sides of zero. -/
theorem owners_of_collect_sharedOwners :
    ∃ g, collect sharedOwners {} = .ok (some g) ∧ (g.owners.map (·.owner)).Nodup ∧
      (∀ o ∈ g.owners, LaidOut o) ∧ ListsPlaces sharedOwners {} g := by
  have declared : sharedOwners.enumDecl? ({} : Rules).growableEnum = some baseFormats := by decide +kernel
  have added : additions sharedOwners baseFormats = .ok _ := rfl
  obtain ⟨g, done, _⟩ := collect_of_additions declared added
  exact ⟨g, done, owners_of_collect done⟩

end CapabilityRegistry.Growable
