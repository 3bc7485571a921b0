import CapabilityRegistry.Proofs.Mappings.Answers
import CapabilityRegistry.Proofs.Mappings.CoreGroups

/-!
# The first claim

Which entry a struct gets. Of the required names that stand for a struct the first one makes the entry, in
the order in which features and extensions are processed, and its feature or extension lists it
(`entry_of_first`). A struct that is not required, or has no type tag, is left independent.
-/

namespace CapabilityRegistry.Mappings

/-! ## The entries of one struct -/

namespace ClaimContext
variable {ctx : ClaimContext} {claimed : List String} {struct tag : String}

/-- The name is reportable and stands for the struct. -/
def asksFor (ctx : ClaimContext) (struct name : String) : Bool :=
  ctx.reportableNames.contains name && canonicalIn ctx.aliases name == struct

/-- A name asks for a struct where it is reportable and stands for the struct. -/
lemma asksFor_iff {name : String} :
    ctx.asksFor struct name = true ↔
      name ∈ ctx.reportableNames ∧ canonicalIn ctx.aliases name = struct := by
  rw [asksFor, Bool.and_eq_true, List.contains_iff_mem, beq_iff_eq]

/-- The entries that stand for a struct. -/
def entriesFor (ctx : ClaimContext) (struct : String) (entries : List StructEntry) : List StructEntry :=
  entries.filter (ctx.behind · == struct)

/-- The entries for a struct are those with the struct behind them. -/
lemma mem_entriesFor {entries : List StructEntry} {e : StructEntry} :
    e ∈ ctx.entriesFor struct entries ↔ e ∈ entries ∧ ctx.behind e = struct := by
  rw [entriesFor, List.mem_filter, beq_iff_eq]

/-- A struct is without entries where no entry has it behind. -/
lemma entriesFor_eq_nil {entries : List StructEntry} :
    ctx.entriesFor struct entries = [] ↔ ∀ e ∈ entries, ctx.behind e ≠ struct := by
  simp [entriesFor, List.filter_eq_nil_iff]

/-- An entry counts or is passed by. -/
lemma entriesFor_cons {entries : List StructEntry} {e : StructEntry} :
    ctx.entriesFor struct (e :: entries) =
      if ctx.behind e = struct then e :: ctx.entriesFor struct entries
      else ctx.entriesFor struct entries := by
  simp [entriesFor, List.filter_cons]

/-- What is claimed already gets no entry. -/
lemma entriesFor_claimNames_of_claimed {names : List String} (old : struct ∈ claimed) :
    ctx.entriesFor struct (ctx.claimNames claimed names).1 = [] := by
  obtain ⟨_, new⟩ : _ ∧ ∀ e ∈ (ctx.claimNames claimed names).1, ctx.behind e ∉ claimed :=
    nodup_behind_claimNames
  rw [entriesFor_eq_nil]
  intro e listed same
  exact new e listed (same ▸ old)

/-- What gets no entry is not claimed. -/
lemma not_mem_claimNames_snd {names : List String} (free : struct ∉ claimed)
    (none : ctx.entriesFor struct (ctx.claimNames claimed names).1 = []) :
    struct ∉ (ctx.claimNames claimed names).2 := by
  rw [claimNames_snd, List.mem_append, List.mem_reverse, List.mem_map]
  rintro (⟨e, listed, same⟩ | old)
  · exact entriesFor_eq_nil.1 none e listed same
  · exact free old

/-- The entries of a row have names of the row, in its order. -/
lemma claimNames_sublist {names : List String} :
    ((ctx.claimNames claimed names).1.map (·.name)).Sublist names := by
  induction names generalizing claimed with
  | nil => exact .slnil
  | cons name names ih =>
    rw [claimNames]
    cases result : ctx.claim? claimed name with
    | none => exact ih.cons name
    | some e =>
      obtain ⟨rfl, _⟩ := claim?_eq_some_iff.1 result
      exact ih.cons_cons e.name

section tagged
variable (tagged : ∀ name, ctx.asksFor struct name = true → ctx.typeTags.get? name = some tag)
  (free : struct ∉ claimed)

include tagged free

/-- Of a row of names the first that asks for a struct makes the entry. -/
lemma entriesFor_claimNames {names : List String} :
    ctx.entriesFor struct (ctx.claimNames claimed names).1 =
      ((names.find? (ctx.asksFor struct)).map fun name => ⟨name, tag⟩).toList := by
  induction names generalizing claimed with
  | nil => rfl
  | cons name names ih =>
    rw [claimNames, List.find?_cons]
    cases asks : ctx.asksFor struct name with
    | true =>
      obtain ⟨reportable, rfl⟩ := asksFor_iff.1 asks
      let e : StructEntry := ⟨name, tag⟩
      have made : ctx.claim? claimed name = some e :=
        claim?_eq_some_iff.2 ⟨rfl, reportable, free, tagged name asks⟩
      -- the struct counts as claimed from here on
      have rest : ctx.entriesFor (ctx.behind e) (ctx.claimNames (ctx.behind e :: claimed) names).1 = [] :=
        entriesFor_claimNames_of_claimed List.mem_cons_self
      rw [made]
      show ctx.entriesFor (ctx.behind e) (e :: (ctx.claimNames (ctx.behind e :: claimed) names).1) = [e]
      rw [entriesFor_cons, if_pos rfl, rest]
    | false =>
      cases result : ctx.claim? claimed name with
      | none => exact ih free
      | some e =>
        obtain ⟨rfl, reportable, _⟩ := claim?_eq_some_iff.1 result
        have other : ctx.behind e ≠ struct := by
          intro same
          cases (asksFor_iff.2 ⟨reportable, same⟩).symm.trans asks
        have free' : struct ∉ ctx.behind e :: claimed := by
          rw [List.mem_cons, not_or]
          exact ⟨other.symm, free⟩
        show ctx.entriesFor struct (e :: (ctx.claimNames (ctx.behind e :: claimed) names).1) = _
        rw [entriesFor_cons, if_neg other]
        exact ih free'

end tagged

/-! ## Rows of sources -/

section sources
variable {α : Type} {label : α → String} {required : α → List String} {sources : List α}

/-- The names that sources require, one source after the other. -/
def requestsOf (required : α → List String) (sources : List α) : List (α × String) :=
  sources.flatMap fun s => (required s).map (s, ·)

/-- Mapped sources require what they required before. -/
lemma requestsOf_map {β : Type} {f : β → α} {sources : List β} :
    requestsOf required (sources.map f) =
      (requestsOf (required ∘ f) sources).map fun r => (f r.1, r.2) := by
  simp [requestsOf, List.flatMap_map, List.map_flatMap, Function.comp_def]

/-- The first name that asks for a struct, with the source that requires it. -/
def firstAsked? (ctx : ClaimContext) (struct : String) (required : α → List String) (sources : List α) :
    Option (α × String) :=
  (requestsOf required sources).find? (ctx.asksFor struct ·.2)

/-- The first source that asks for the struct is taken, the others only if it does not. -/
lemma firstAsked?_cons {s : α} :
    ctx.firstAsked? struct required (s :: sources) =
      (((required s).find? (ctx.asksFor struct)).map (s, ·)).or (ctx.firstAsked? struct required sources) := by
  rw [firstAsked?, requestsOf, List.flatMap_cons, List.find?_append, List.find?_map]
  rfl

/-- To leave out names that do not ask for the struct does not change which name is the first. -/
lemma firstAsked?_filter {keep : String → Bool}
    (kept : ∀ name, ctx.asksFor struct name = true → keep name = true) :
    ctx.firstAsked? struct (fun s => (required s).filter keep) sources =
      ctx.firstAsked? struct required sources := by
  have rows : requestsOf (fun s => (required s).filter keep) sources =
      (requestsOf required sources).filter (keep ·.2) := by
    simp [requestsOf, List.filter_flatMap, List.filter_map, Function.comp_def]
  have both : (fun r : α × String => decide (keep r.2 = true ∧ ctx.asksFor struct r.2 = true)) =
      (ctx.asksFor struct ·.2) := by
    funext r
    rw [Bool.decide_and, Bool.decide_eq_true, Bool.decide_eq_true]
    cases asks : ctx.asksFor struct r.2 with
    | false => exact Bool.and_false _
    | true => rw [kept r.2 asks, Bool.and_true]
  rw [firstAsked?, rows, List.find?_filter, both]
  rfl

/-- A struct that has been claimed gets no further entries. -/
lemma entriesFor_claimAll_of_claimed {requests : List (String × List String)} (old : struct ∈ claimed) :
    ctx.entriesFor struct (entries (ctx.claimAll claimed requests).1) = [] := by
  rw [entries_claimAll]
  exact entriesFor_claimNames_of_claimed old

/-- A struct without an entry is not taken. -/
lemma not_mem_claimAll_snd {requests : List (String × List String)} (free : struct ∉ claimed)
    (none : ctx.entriesFor struct (entries (ctx.claimAll claimed requests).1) = []) :
    struct ∉ (ctx.claimAll claimed requests).2 := by
  rw [entries_claimAll] at none
  rw [claimed_claimAll]
  exact not_mem_claimNames_snd free none

/-- What gets an entry is claimed. -/
lemma mem_claimAll_snd {requests : List (String × List String)} {e : StructEntry}
    (made : e ∈ ctx.entriesFor struct (entries (ctx.claimAll claimed requests).1)) :
    struct ∈ (ctx.claimAll claimed requests).2 := by
  obtain ⟨listed, rfl⟩ := mem_entriesFor.1 made
  rw [claimAll_snd]
  exact List.mem_append_left _ (List.mem_reverse.2 (List.mem_map_of_mem listed))

variable (tagged : ∀ name, ctx.asksFor struct name = true → ctx.typeTags.get? name = some tag)
  (free : struct ∉ claimed)

include tagged free

/-- Of the names that sources require the first that asks for a struct makes the entry. -/
lemma entriesFor_claimAll :
    ctx.entriesFor struct
        (entries (ctx.claimAll claimed (sources.map fun s => (label s, required s))).1) =
      ((ctx.firstAsked? struct required sources).map fun r => ⟨r.2, tag⟩).toList := by
  have flat : sources.flatMap required = (requestsOf required sources).map (·.2) := by
    simp [requestsOf, List.map_flatMap, Function.comp_def]
  rw [entries_claimAll, List.flatMap_map]
  show ctx.entriesFor struct (ctx.claimNames claimed (sources.flatMap required)).1 = _
  rw [entriesFor_claimNames tagged free, flat, List.find?_map, Option.map_map]
  rfl

/-- The source of that name has the entry in its own list. -/
lemma exists_requirer {s : α} {name : String}
    (first : ctx.firstAsked? struct required sources = some (s, name)) :
    ∃ r ∈ (ctx.claimAll claimed (sources.map fun s => (label s, required s))).1,
      r.name = label s ∧ ⟨name, tag⟩ ∈ r.structs ∧ (r.structs.map (·.name)).Sublist (required s) := by
  induction sources generalizing claimed with
  | nil => cases first
  | cons s' sources ih =>
    have row : ctx.entriesFor struct (ctx.claimNames claimed (required s')).1 = _ :=
      entriesFor_claimNames tagged free
    rw [firstAsked?_cons] at first
    rw [List.map_cons, claimAll]
    cases hit : (required s').find? (ctx.asksFor struct) with
    | some name' =>
      rw [hit] at first row
      cases first
      have made : ⟨name, tag⟩ ∈ ctx.entriesFor struct (ctx.claimNames claimed (required s)).1 := by
        rw [row]
        exact List.mem_singleton_self _
      exact ⟨_, List.mem_cons_self, rfl, (mem_entriesFor.1 made).1, claimNames_sublist⟩
    | none =>
      rw [hit] at first row
      obtain ⟨r, listed, h⟩ := ih (not_mem_claimNames_snd free row) first
      exact ⟨r, List.mem_cons_of_mem _ listed, h⟩

end sources

end ClaimContext

open ClaimContext (requestsOf)

/-! ## Requests in the order of priority -/

/-- Where a name is required: by a feature, or by an extension. -/
inductive Origin where
  | feature (f : Feature)
  | extension (x : Extension)
  deriving DecidableEq

/-- The names that are required there, in order. -/
def Origin.required : Origin → List String
  | feature f => f.requires.types
  | extension x => x.requires.types

/-- The entry stands in the feature of that name, or in the extension of that name whose entries are all
required by the extension. -/
def Origin.Lists (m : Mappings) (e : StructEntry) : Origin → Prop
  | feature f => ∃ r ∈ m.features, r.name = f.name ∧ e ∈ r.structs
  | extension x => ∃ r ∈ m.extensions, r.name = x.name ∧ e ∈ r.structs ∧
      (r.structs.map (·.name)).Sublist x.requires.types

/-- The features of the APIs that are asked for, one API after the other. -/
def askedFeatures (reg : Registry) (rules : Rules) : List Feature :=
  rules.featureApis.flatMap fun api => reg.features.filter (·.api == api)

/-- The extensions that are enabled, in the order of their declarations. -/
def enabledExtensions (reg : Registry) (rules : Rules) : List Extension :=
  reg.extensions.filter fun x => rules.extensionEnabled x.supported x.platform

/-- What features and then enabled extensions require, disabled names included. -/
def requested (reg : Registry) (rules : Rules) : List (Origin × String) :=
  requestsOf Origin.required
    ((askedFeatures reg rules).map .feature ++ (enabledExtensions reg rules).map .extension)

/-- The first reportable name, with where it is required, that stands for a struct. -/
def firstRequest? (m : Mappings) (reg : Registry) (rules : Rules) (struct : String) :
    Option (Origin × String) :=
  (requested reg rules).find? fun r => m.isReportable r.2 && m.canonical r.2 == struct

variable {reg : Registry} {disabled : DisabledSet} {closure : DependencyClosure} {rules : Rules}
  {m : Mappings} {struct tag : String}

/-- An entry stays in the requirer of that name when requirers of one name become one. -/
lemma exists_merged {requirers : List Requirer} {r : Requirer} {e : StructEntry} (mem : r ∈ requirers)
    (listed : e ∈ r.structs) :
    ∃ r' ∈ (mergeByName requirers).filter (!·.structs.isEmpty), r'.name = r.name ∧ e ∈ r'.structs := by
  have named : r.name ∈ (distinctOn Requirer.name requirers).map Requirer.name :=
    mem_map_distinctOn.2 (List.mem_map_of_mem mem)
  obtain ⟨first, kept, same⟩ := List.mem_map.1 named
  have held : e ∈ (requirers.filter (·.name == first.name)).flatMap (·.structs) :=
    List.mem_flatMap.2 ⟨r, List.mem_filter.2 ⟨mem, beq_iff_eq.2 same.symm⟩, listed⟩
  refine ⟨_, List.mem_filter.2 ⟨List.mem_map_of_mem kept, ?_⟩, same, held⟩
  simpa using List.ne_nil_of_mem held

/-- Features ask for what they require, apart from disabled names. -/
lemma featureRequests_eq :
    featureRequests reg disabled rules = (askedFeatures reg rules).map fun f =>
      (f.name, f.requires.types.filter (!disabled.contains ·)) := by
  simp only [featureRequests, askedFeatures, List.map_flatMap]

/-- Enabled extensions ask for what they require, apart from disabled names. -/
lemma extensionRequests_eq :
    extensionRequests reg disabled rules = (enabledExtensions reg rules).map fun x =>
      (x.name, x.requires.types.filter (!disabled.contains ·)) :=
  rfl

/-- The first name that a feature requires and that asks for a struct. -/
def featureRequest? (reg : Registry) (disabled : DisabledSet) (rules : Rules) (struct : String) :
    Option (Feature × String) :=
  (claimContext reg disabled rules).firstAsked? struct (·.requires.types) (askedFeatures reg rules)

/-- The first name that an enabled extension requires and that asks for a struct. -/
def extensionRequest? (reg : Registry) (disabled : DisabledSet) (rules : Rules) (struct : String) :
    Option (Extension × String) :=
  (claimContext reg disabled rules).firstAsked? struct (·.requires.types) (enabledExtensions reg rules)

section first
variable (distinct : reg.structNames.Nodup) (built : Built reg disabled closure rules m)

include built

/-- The canonical name of an entry is the struct behind it. -/
lemma canonical_eq_behind (e : StructEntry) :
    m.canonical e.name = (claimContext reg disabled rules).behind e := by
  rw [canonical, built.aliases]
  rfl

/-- A name asks for a struct where it is reportable and the struct is its canonical name. -/
lemma asksFor_eq :
    (claimContext reg disabled rules).asksFor struct =
      fun name => m.isReportable name && m.canonical name == struct := by
  funext name
  rw [isReportable, built.reportableNames, canonical, built.aliases]
  rfl

include distinct

/-- A name that asks for a struct has its type tag. -/
lemma typeTag_of_asksFor {name : String}
    (asks : (claimContext reg disabled rules).asksFor struct name = true) :
    (claimContext reg disabled rules).typeTags.get? name = m.typeTag? struct := by
  rw [asksFor_eq built, Bool.and_eq_true, beq_iff_eq] at asks
  obtain ⟨reportable, rfl⟩ := asks
  rw [typeTag?_canonical distinct built reportable, typeTag?, built.typeTags]

/-- A name that asks for a struct is not disabled. -/
lemma enabled_of_asksFor {name : String}
    (asks : (claimContext reg disabled rules).asksFor struct name = true) :
    (!disabled.contains name) = true := by
  rw [asksFor_eq built, Bool.and_eq_true] at asks
  obtain ⟨names, last, chain⟩ := (isReportable_iff_chain distinct built).1 asks.1
  rw [chain.enabled name List.mem_cons_self, Bool.not_false]

/-- A struct that no core version names has no entry among the core groups. -/
lemma entriesFor_coreGroups (plain : CoreVersion.ofName? struct rules.capabilityStart = none) :
    struct ∉ (ownCore reg disabled rules).map (·.1) ∧
      (claimContext reg disabled rules).entriesFor struct (m.coreGroups.flatMap (·.structs)) = [] := by
  have uncored : struct ∉ (ownCore reg disabled rules).map (·.1) := by
    intro mem
    obtain ⟨⟨_, v⟩, core, rfl⟩ := List.mem_map.1 mem
    obtain ⟨_, _, named⟩ := List.mem_filterMap.1 core
    obtain ⟨_, named, same⟩ := Option.map_eq_some_iff.1 named
    cases same
    cases plain.symm.trans named
  refine ⟨uncored, ClaimContext.entriesFor_eq_nil.2 fun e listed same => ?_⟩
  rw [built.coreGroups, coreGroups_perm.mem_iff] at listed
  obtain ⟨c, core, rfl⟩ := List.mem_map.1 listed
  have own := coreStructs_names_sublist.subset (List.mem_map_of_mem core)
  apply uncored
  rw [← same, ClaimContext.behind, coreEntry]
  rw [show canonicalIn (claimContext reg disabled rules).aliases c.1 = c.1 from canonicalIn_own distinct own]
  exact List.mem_map_of_mem core

omit distinct in
/-- The first request is the first one of features, or else the first one of extensions. -/
lemma firstRequest?_eq :
    m.firstRequest? reg rules struct =
      ((featureRequest? reg disabled rules struct).map fun r => (.feature r.1, r.2)).or
        ((extensionRequest? reg disabled rules struct).map fun r => (.extension r.1, r.2)) := by
  rw [firstRequest?, requested, requestsOf, List.flatMap_append, List.find?_append]
  show ((requestsOf _ _).find? _).or ((requestsOf _ _).find? _) = _
  rw [ClaimContext.requestsOf_map, ClaimContext.requestsOf_map, List.find?_map, List.find?_map,
    featureRequest?, extensionRequest?, ClaimContext.firstAsked?, ClaimContext.firstAsked?,
    asksFor_eq built]
  rfl

/-- The entries of a struct that no core version names are made by features and extensions. -/
lemma entries_perm (plain : CoreVersion.ofName? struct rules.capabilityStart = none) :
    (m.entries.filter (m.canonical ·.name == struct)).Perm
      ((claimContext reg disabled rules).entriesFor struct
          (ClaimContext.entries (featureClaims reg disabled rules).1) ++
        (claimContext reg disabled rules).entriesFor struct
          (ClaimContext.entries (extensionClaims reg disabled rules).1)) := by
  have core := (entriesFor_coreGroups distinct built plain).2
  have features := (features_perm built).filter ((claimContext reg disabled rules).behind · == struct)
  rw [ClaimContext.entriesFor] at core
  simp only [canonical_eq_behind built, entries, List.filter_append, core, List.nil_append,
    extensions_eq built]
  exact features.append_right _

variable (tagged : m.typeTag? struct = some tag)

include tagged

/-- A name that asks for the struct has its type tag. -/
lemma tag_of_asksFor {name : String}
    (asks : (claimContext reg disabled rules).asksFor struct name = true) :
    (claimContext reg disabled rules).typeTags.get? name = some tag :=
  (typeTag_of_asksFor distinct built asks).trans tagged

section enabled
variable {α : Type} {label : α → String} {required : α → List String} {sources : List α}
  {claimed : List String} (free : struct ∉ claimed)

include free

/-- Sources that leave out disabled names make the entry of a struct as all of their names would. -/
lemma entriesFor_enabled :
    (claimContext reg disabled rules).entriesFor struct (ClaimContext.entries
        ((claimContext reg disabled rules).claimAll claimed
          (sources.map fun s => (label s, (required s).filter (!disabled.contains ·)))).1) =
      (((claimContext reg disabled rules).firstAsked? struct required sources).map
        fun r => ⟨r.2, tag⟩).toList := by
  rw [ClaimContext.entriesFor_claimAll (fun _ => tag_of_asksFor distinct built tagged) free,
    ClaimContext.firstAsked?_filter fun _ => enabled_of_asksFor distinct built]

/-- The first name that asks for a struct has its entry in the row of its source, among names that the source
requires. -/
lemma exists_enabled {s : α} {name : String}
    (first : (claimContext reg disabled rules).firstAsked? struct required sources = some (s, name)) :
    ∃ r ∈ ((claimContext reg disabled rules).claimAll claimed
        (sources.map fun s => (label s, (required s).filter (!disabled.contains ·)))).1,
      r.name = label s ∧ ⟨name, tag⟩ ∈ r.structs ∧ (r.structs.map (·.name)).Sublist (required s) := by
  rw [← ClaimContext.firstAsked?_filter fun _ => enabled_of_asksFor distinct built] at first
  obtain ⟨r, made, named, listed, row⟩ :=
    ClaimContext.exists_requirer (fun _ => tag_of_asksFor distinct built tagged) free first
  exact ⟨r, made, named, listed, row.trans List.filter_sublist⟩

end enabled

variable (plain : CoreVersion.ofName? struct rules.capabilityStart = none)

include plain

/-- The features make the entry of the struct when one of them requires it. -/
lemma entriesFor_featureClaims :
    (claimContext reg disabled rules).entriesFor struct
        (ClaimContext.entries (featureClaims reg disabled rules).1) =
      ((featureRequest? reg disabled rules struct).map fun r => ⟨r.2, tag⟩).toList := by
  rw [featureClaims, featureRequests_eq]
  exact entriesFor_enabled distinct built tagged (entriesFor_coreGroups distinct built plain).1

/-- The feature lists the entry that it makes. -/
lemma lists_of_feature {f : Feature} {name : String}
    (first : featureRequest? reg disabled rules struct = some (f, name)) :
    Origin.Lists m ⟨name, tag⟩ (.feature f) := by
  obtain ⟨r, made, named, listed, _⟩ := exists_enabled distinct built tagged
    (entriesFor_coreGroups distinct built plain).1 first
  rw [← featureRequests_eq] at made
  obtain ⟨r', merged, same, listed'⟩ := exists_merged made listed
  rw [Origin.Lists, built.features]
  exact ⟨r', merged, same.trans named, listed'⟩

section unasked
variable (unasked : featureRequest? reg disabled rules struct = none)

include unasked

/-- A struct that no feature asks for is not taken by features. -/
lemma not_mem_featureClaims : struct ∉ (featureClaims reg disabled rules).2 := by
  have made := entriesFor_featureClaims distinct built tagged plain
  rw [unasked] at made
  exact ClaimContext.not_mem_claimAll_snd (entriesFor_coreGroups distinct built plain).1 made

/-- What no feature requires gets its entry from the extensions. -/
lemma entriesFor_extensionClaims :
    (claimContext reg disabled rules).entriesFor struct
        (ClaimContext.entries (extensionClaims reg disabled rules).1) =
      ((extensionRequest? reg disabled rules struct).map fun r => ⟨r.2, tag⟩).toList := by
  rw [extensionClaims, extensionRequests_eq]
  exact entriesFor_enabled distinct built tagged (not_mem_featureClaims distinct built tagged plain unasked)

/-- The extension lists the entry that it makes. -/
lemma lists_of_extension {x : Extension} {name : String}
    (first : extensionRequest? reg disabled rules struct = some (x, name)) :
    Origin.Lists m ⟨name, tag⟩ (.extension x) := by
  obtain ⟨r, made, named, listed, row⟩ := exists_enabled distinct built tagged
    (not_mem_featureClaims distinct built tagged plain unasked) first
  rw [← extensionRequests_eq] at made
  rw [Origin.Lists, built.extensions]
  refine ⟨r, List.mem_filter.2 ⟨made, ?_⟩, named, listed, row⟩
  simpa using List.ne_nil_of_mem listed

end unasked

/-- The first request makes the one entry of the struct. -/
lemma entry_of_request {origin : Origin} {name : String}
    (first : m.firstRequest? reg rules struct = some (origin, name)) :
    m.entries.filter (m.canonical ·.name == struct) = [⟨name, tag⟩] ∧ origin.Lists m ⟨name, tag⟩ := by
  have perm := entries_perm distinct built plain
  have features := entriesFor_featureClaims distinct built tagged plain
  rw [firstRequest?_eq built] at first
  cases asked : featureRequest? reg disabled rules struct with
  | some r =>
    rw [asked] at first features
    cases first
    have claimed : struct ∈ (featureClaims reg disabled rules).2 := by
      apply ClaimContext.mem_claimAll_snd
      rw [← featureClaims, features]
      exact List.mem_singleton_self _
    have others : (claimContext reg disabled rules).entriesFor struct
        (ClaimContext.entries (extensionClaims reg disabled rules).1) = [] :=
      ClaimContext.entriesFor_claimAll_of_claimed claimed
    rw [features, others] at perm
    exact ⟨List.perm_singleton.1 perm, lists_of_feature distinct built tagged plain asked⟩
  | none =>
    have extensions := entriesFor_extensionClaims distinct built tagged plain asked
    rw [asked] at first features
    cases asked' : extensionRequest? reg disabled rules struct with
    | some r =>
      rw [asked'] at first extensions
      cases first
      rw [features, extensions] at perm
      exact ⟨List.perm_singleton.1 perm, lists_of_extension distinct built tagged plain asked asked'⟩
    | none =>
      rw [asked'] at first
      cases first

omit tagged in
/-- A struct that nothing requires, or that has no type tag, has no entry. -/
lemma no_entry (unasked : m.typeTag? struct = none ∨ m.firstRequest? reg rules struct = none)
    {e : StructEntry} (listed : e ∈ m.entries) : m.canonical e.name ≠ struct := by
  intro stands
  have mem : e ∈ m.entries.filter (m.canonical ·.name == struct) :=
    List.mem_filter.2 ⟨listed, beq_iff_eq.2 stands⟩
  rw [(entries_perm distinct built plain).mem_iff] at mem
  cases tagged : m.typeTag? struct with
  | none =>
    have carries : e.name ∈ (claimContext reg disabled rules).reportableNames ∧
        (claimContext reg disabled rules).typeTags.get? e.name = some e.typeTag := by
      rcases List.mem_append.1 mem with made | made
      · exact (ClaimContext.mem_claimAll (ClaimContext.mem_entriesFor.1 made).1).2
      · exact (ClaimContext.mem_claimAll (ClaimContext.mem_entriesFor.1 made).1).2
    rw [canonical_eq_behind built] at stands
    have asks := ClaimContext.asksFor_iff.2 ⟨carries.1, stands⟩
    cases carries.2.symm.trans ((typeTag_of_asksFor distinct built asks).trans tagged)
  | some tag =>
    have unasked := unasked.resolve_left (by rw [tagged]; exact nofun)
    rw [firstRequest?_eq built, Option.or_eq_none_iff, Option.map_eq_none_iff,
      Option.map_eq_none_iff] at unasked
    rw [entriesFor_featureClaims distinct built tagged plain,
      entriesFor_extensionClaims distinct built tagged plain unasked.1, unasked.1, unasked.2] at mem
    cases mem

end first

/-- Of the names that stand for a struct the first that a feature, or else an enabled extension, requires
makes the one entry of the struct, in the place of what requires it. A struct that nothing requires, or that
has no type tag, is independent. -/
theorem entry_of_first (distinct : reg.structNames.Nodup)
    (done : build reg disabled closure rules = .ok m) (reportable : struct ∈ m.reportable)
    (plain : CoreVersion.ofName? struct rules.capabilityStart = none) :
    (∀ tag origin name, m.typeTag? struct = some tag →
      m.firstRequest? reg rules struct = some (origin, name) →
      m.entries.filter (m.canonical ·.name == struct) = [⟨name, tag⟩] ∧
        origin.Lists m ⟨name, tag⟩) ∧
    (m.typeTag? struct = none ∨ m.firstRequest? reg rules struct = none → struct ∈ m.independent) := by
  have built := built_of_build done
  constructor
  · intro tag origin name tagged first
    exact entry_of_request distinct built tagged plain first
  · intro unasked
    rcases List.mem_append.1 ((places_perm distinct done).2.mem_iff.2 reportable) with claimed | alone
    · obtain ⟨e, listed, stands⟩ := List.mem_map.1 claimed
      exact (no_entry distinct built plain unasked listed stands).elim
    · exact alone

/-- A struct that a feature and an extension ask for under two names gets the name of the feature. -/
theorem entry_of_first_shared :
    ∃ m, build shared {} {} {} = .ok m ∧
      m.entries.filter (m.canonical ·.name == "VkPhysicalDeviceShaderFeatures") =
        [⟨"VkPhysicalDeviceShaderFeaturesKHR", "VK_STRUCTURE_TYPE_PHYSICAL_DEVICE_SHADER_FEATURES"⟩] ∧
      (∃ r ∈ m.features, r.name = "VK_VERSION_1_2" ∧
        "VkPhysicalDeviceShaderFeaturesKHR" ∈ r.structs.map (·.name)) ∧
      "VkPhysicalDeviceDriverProperties" ∈ m.independent := by
  have distinct : shared.structNames.Nodup := by decide
  have done : build shared {} {} {} = .ok _ := rfl
  have reported : ∀ name ∈ ownNames shared {} {}, name ∈ _ :=
    fun name => (mem_reportable_iff (built_of_build done)).2
  have claimed := entry_of_first distinct done
    (reported "VkPhysicalDeviceShaderFeatures" (by decide +kernel)) (by decide +kernel)
  have untagged := entry_of_first distinct done
    (reported "VkPhysicalDeviceDriverProperties" (by decide +kernel)) (by decide +kernel)
  obtain ⟨entry, r, listed, named, held⟩ := claimed.1
    "VK_STRUCTURE_TYPE_PHYSICAL_DEVICE_SHADER_FEATURES"
    (.feature ⟨"VK_VERSION_1_2", "vulkan", ⟨["VkPhysicalDeviceShaderFeaturesKHR"], []⟩⟩)
    "VkPhysicalDeviceShaderFeaturesKHR" (by decide +kernel) (by decide +kernel)
  exact ⟨_, done, entry, ⟨r, listed, named, List.mem_map_of_mem held⟩,
    untagged.2 (.inl (by decide +kernel))⟩

end CapabilityRegistry.Mappings
