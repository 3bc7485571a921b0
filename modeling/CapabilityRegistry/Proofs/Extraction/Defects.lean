import CapabilityRegistry.Model
import CapabilityRegistry.Proofs.First

/-!
# Malformed declarations

Which parts of a document make reading fail. `parts` lists the parts that may be malformed in the order in which
they are read; what is not of the API that is read, has no name where names are optional, or only chains structs
is none of them. Each part lacks something or not by itself (`Part.Lacks`), so that reading a document fails with
the first defect of a part (`ofDocument_eq_error_iff`).
-/

namespace CapabilityRegistry.Extraction

open Markup (Element)

variable {root e : Element} {owner name key : String} {defect : Defect}

/-- A part of a document that may be malformed. -/
inductive Part where
  | struct (e : Element)
  /-- A member of the struct with this name. -/
  | member (owner : String) (e : Element)
  | feature (e : Element)
  /-- An enumerant that a requirement lists. -/
  | enumerant (e : Element)

/-- An attribute is there and is no number. -/
def NotNumber (e : Element) (key text : String) : Prop :=
  e.attr? key = some text ∧ Numeral.parseInt text = none

/-- What a part lacks. Of two attributes that are no numbers, the offset is told. -/
inductive Part.Lacks : Part → Defect → Prop where
  | structName {e : Element} (nameless : e.attr? "name" = none) : Lacks (.struct e) .namelessStruct
  | memberType {owner name : String} {e : Element} (named : e.childText? "name" = some name)
      (data : name ∉ chainMembers) (untyped : e.childText? "type" = none) :
      Lacks (.member owner e) (.untypedMember name owner)
  | featureName {e : Element} (nameless : e.attr? "name" = none) : Lacks (.feature e) .namelessFeature
  | offset {name text : String} {e : Element} (named : e.attr? "name" = some name)
      (extending : (e.attr? "extends").isSome = true) (bad : NotNumber e "offset" text) :
      Lacks (.enumerant e) (.notANumber "offset" text name)
  | extnumber {name text : String} {e : Element} (named : e.attr? "name" = some name)
      (extending : (e.attr? "extends").isSome = true) (good : ∀ text, ¬ NotNumber e "offset" text)
      (bad : NotNumber e "extnumber" text) :
      Lacks (.enumerant e) (.notANumber "extnumber" text name)

/-! ## The parts of a document -/

/-- The members of a struct that count for the API that is read. -/
def countedMembers (e : Element) : List Element :=
  (e.elementsNamed "member").filter targetsApi

/-- A struct, and its members if it has a name. -/
def structParts (e : Element) : List Part :=
  .struct e ::
    match e.attr? "name" with
    | none => []
    | some owner => (countedMembers e).map (.member owner)

/-- The enumerants that requirements list. -/
def requiredEnums (e : Element) : List Element :=
  (e.elementsNamed "require").flatMap (·.elementsNamed "enum")

/-- A feature and its enumerants. -/
def featureParts (e : Element) : List Part :=
  .feature e :: (requiredEnums e).map .enumerant

/-- The enumerants of an extension that has a name. -/
def extensionParts (e : Element) : List Part :=
  if (e.attr? "name").isSome then (requiredEnums e).map .enumerant else []

/-- The structs and unions that count for the API that is read. -/
def structElements (root : Element) : List Element :=
  (((root.elementsNamed "types").flatMap (·.elementsNamed "type")).filter targetsApi).filter fun t =>
    hasCategory "struct" t || hasCategory "union" t

/-- The extensions of a document. -/
def extensionElements (root : Element) : List Element :=
  (root.elementsNamed "extensions").flatMap (·.elementsNamed "extension")

/-- The parts of a document in the order in which they are read. -/
def parts (root : Element) : List Part :=
  (structElements root).flatMap structParts ++
    ((root.elementsNamed "feature").flatMap featureParts ++ (extensionElements root).flatMap extensionParts)

/-! ## Types -/

/-- Reading a member fails with what the member lacks. -/
lemma member?_eq_error_iff : member? owner e = .error defect ↔ Part.Lacks (.member owner e) defect := by
  unfold member?
  split
  next nameless =>
    constructor
    · nofun
    · intro lacks
      cases lacks with
      | memberType named => cases nameless.symm.trans named
  next name named =>
    split
    next chains =>
      constructor
      · nofun
      · intro lacks
        cases lacks with
        | memberType named' data =>
          cases named.symm.trans named'
          exact (data chains).elim
    next data =>
      split
      next untyped =>
        constructor
        · intro failed
          cases failed
          exact .memberType named data untyped
        · intro lacks
          cases lacks with
          | memberType named' =>
            cases named.symm.trans named'
            rfl
      next typeName typed =>
        constructor
        · nofun
        · intro lacks
          cases lacks with
          | memberType _ _ untyped => cases typed.symm.trans untyped

/-- A struct lacks nothing but a name. -/
lemma exists_lacks_struct_iff : (∃ defect, Part.Lacks (.struct e) defect) ↔ e.attr? "name" = none := by
  constructor
  · rintro ⟨_, lacks⟩
    cases lacks with
    | structName nameless => exact nameless
  · exact fun nameless => ⟨_, .structName nameless⟩

/-- Reading a struct fails at its first part that lacks something. -/
lemma struct_eq_error_iff : struct e = .error defect ↔ FirstGiven Part.Lacks (structParts e) defect := by
  unfold struct structParts
  cases named : e.attr? "name" with
  | none =>
    rw [firstGiven_cons]
    constructor
    · intro failed
      cases failed
      exact .inl (.structName named)
    · rintro (lacks | ⟨_, given⟩)
      · cases lacks with
        | structName => rfl
      · exact (not_firstGiven_nil given).elim
  | some owner =>
    have whole : ∀ defect, ¬ Part.Lacks (.struct e) defect := by
      rw [← not_exists, exists_lacks_struct_iff, named]
      nofun
    rw [firstGiven_cons, firstGiven_map, iff_false_intro (whole defect), false_or, and_iff_right whole]
    refine bind_pure_eq_error.trans ?_
    exact mapM_eq_error_iff fun _ _ => member?_eq_error_iff

/-! ## Requirements -/

/-- Reading a number fails where the attribute is there and is none. -/
lemma number?_eq_error_iff :
    number? e name key = .error defect ↔ ∃ text, NotNumber e key text ∧ .notANumber key text name = defect := by
  unfold number? NotNumber
  split
  next missing => simp [missing]
  next text present =>
    split
    next n read => simp [present, read]
    next unread => simp [present, unread]

/-- Reading an enumerant fails with what it lacks. -/
lemma enumExtension?_eq_error_iff :
    enumExtension? e = .error defect ↔ Part.Lacks (.enumerant e) defect := by
  unfold enumExtension?
  split
  next name enumName named extending =>
    have extending' : (e.attr? "extends").isSome = true := by rw [extending, Option.isSome_some]
    rw [bind_eq_error, number?_eq_error_iff]
    simp only [bind_pure_eq_error, exists_and_right, exists_ok_iff, ne_eq, number?_eq_error_iff]
    constructor
    · rintro (⟨text, bad, rfl⟩ | ⟨good, text, bad, rfl⟩)
      · exact .offset named extending' bad
      · refine .extnumber named extending' ?_ bad
        exact fun text bad => good _ ⟨text, bad, rfl⟩
    · intro lacks
      cases lacks with
      | offset named' _ bad =>
        cases named.symm.trans named'
        exact .inl ⟨_, bad, rfl⟩
      | extnumber named' _ good bad =>
        cases named.symm.trans named'
        refine .inr ⟨?_, _, bad, rfl⟩
        rintro _ ⟨text, bad, _⟩
        exact good text bad
  next partial_ =>
    constructor
    · nofun
    · intro lacks
      have unextended : ∀ name, e.attr? "name" = some name → ¬ (e.attr? "extends").isSome = true := by
        intro name named extending
        obtain ⟨enumName, extending⟩ := Option.isSome_iff_exists.1 extending
        exact partial_ name enumName named extending
      cases lacks with
      | offset named extending => exact (unextended _ named extending).elim
      | extnumber named extending => exact (unextended _ named extending).elim

/-- Reading requirements fails at their first enumerant that lacks something. -/
lemma requirements_eq_error_iff :
    requirements e = .error defect ↔ FirstGiven Part.Lacks ((requiredEnums e).map .enumerant) defect := by
  rw [firstGiven_map]
  refine bind_pure_eq_error.trans ?_
  exact mapM_eq_error_iff fun _ _ => enumExtension?_eq_error_iff

/-- A feature lacks nothing but a name. -/
lemma exists_lacks_feature_iff : (∃ defect, Part.Lacks (.feature e) defect) ↔ e.attr? "name" = none := by
  constructor
  · rintro ⟨_, lacks⟩
    cases lacks with
    | featureName nameless => exact nameless
  · exact fun nameless => ⟨_, .featureName nameless⟩

/-- Reading a feature fails at its first part that lacks something. -/
lemma feature_eq_error_iff : feature e = .error defect ↔ FirstGiven Part.Lacks (featureParts e) defect := by
  unfold feature featureParts
  rw [firstGiven_cons, ← requirements_eq_error_iff]
  split
  next nameless =>
    constructor
    · intro failed
      cases failed
      exact .inl (.featureName nameless)
    · rintro (lacks | ⟨whole, _⟩)
      · cases lacks with
        | featureName => rfl
      · exact (whole _ (.featureName nameless)).elim
  next name named =>
    have whole : ∀ defect, ¬ Part.Lacks (.feature e) defect := by
      rw [← not_exists, exists_lacks_feature_iff, named]
      nofun
    rw [iff_false_intro (whole defect), false_or, and_iff_right whole]
    exact bind_pure_eq_error

/-- Reading an extension fails at its first part that lacks something. -/
lemma extension?_eq_error_iff :
    extension? e = .error defect ↔ FirstGiven Part.Lacks (extensionParts e) defect := by
  unfold extension? extensionParts
  split
  next nameless =>
    rw [nameless]
    exact ⟨nofun, fun given => (not_firstGiven_nil given).elim⟩
  next name named =>
    rw [named, Option.isSome_some, if_pos rfl, ← requirements_eq_error_iff]
    exact bind_pure_eq_error

/-! ## Documents -/

/-- Reading a document fails at its first part that lacks something. -/
lemma ofDocument_eq_error_iff_first :
    Registry.ofDocument root = .error defect ↔ FirstGiven Part.Lacks (parts root) defect := by
  have structs (defect : Defect) : (structElements root).mapM struct = .error defect ↔
      FirstGiven Part.Lacks ((structElements root).flatMap structParts) defect := by
    rw [firstGiven_flatMap]
    exact mapM_eq_error_iff fun _ _ => struct_eq_error_iff
  have features (defect : Defect) : (root.elementsNamed "feature").mapM feature = .error defect ↔
      FirstGiven Part.Lacks ((root.elementsNamed "feature").flatMap featureParts) defect := by
    rw [firstGiven_flatMap]
    exact mapM_eq_error_iff fun _ _ => feature_eq_error_iff
  have extensions (defect : Defect) : (extensionElements root).mapM extension? = .error defect ↔
      FirstGiven Part.Lacks ((extensionElements root).flatMap extensionParts) defect := by
    rw [firstGiven_flatMap]
    exact mapM_eq_error_iff fun _ _ => extension?_eq_error_iff
  refine bind_eq_error_iff_firstGiven structs fun _ _ => ?_
  refine bind_eq_error_iff_firstGiven features fun _ defect => ?_
  exact bind_pure_eq_error.trans (extensions defect)

/-! ## Where defects are -/

/-- An enumerant whose offset or extension number is there and is no number. -/
def Unnumbered (e : Element) : Prop :=
  (e.attr? "name").isSome = true ∧ (e.attr? "extends").isSome = true ∧
    ∃ key ∈ ["offset", "extnumber"], ∃ text, NotNumber e key text

/-- A member of data without a type. -/
def Untyped (e : Element) : Prop :=
  (∃ name, e.childText? "name" = some name ∧ name ∉ chainMembers) ∧ e.childText? "type" = none

/-- A member lacks nothing but a type, and that only if it carries data. -/
lemma exists_lacks_member_iff : (∃ defect, Part.Lacks (.member owner e) defect) ↔ Untyped e := by
  constructor
  · rintro ⟨_, lacks⟩
    cases lacks with
    | memberType named data untyped => exact ⟨⟨_, named, data⟩, untyped⟩
  · rintro ⟨⟨name, named, data⟩, untyped⟩
    exact ⟨_, .memberType named data untyped⟩

/-- An enumerant lacks nothing but numbers. -/
lemma exists_lacks_enumerant_iff : (∃ defect, Part.Lacks (.enumerant e) defect) ↔ Unnumbered e := by
  constructor
  · rintro ⟨_, lacks⟩
    cases lacks with
    | offset named extending bad =>
      exact ⟨Option.isSome_of_eq_some named, extending, _, List.mem_cons_self, _, bad⟩
    | extnumber named extending _ bad =>
      exact ⟨Option.isSome_of_eq_some named, extending, _, List.mem_cons_of_mem _ List.mem_cons_self, _, bad⟩
  · rintro ⟨named, extending, key, mem, text, bad⟩
    obtain ⟨name, named⟩ := Option.isSome_iff_exists.1 named
    by_cases offset : ∃ text, NotNumber e "offset" text
    · obtain ⟨text, bad⟩ := offset
      exact ⟨_, .offset named extending bad⟩
    · rcases List.mem_pair.1 mem with rfl | rfl
      · exact (offset ⟨text, bad⟩).elim
      · exact ⟨_, .extnumber named extending (not_exists.1 offset) bad⟩

/-- A struct is defective without a name, or with a member without a type. -/
lemma exists_defect_struct_iff :
    (∃ defect, FirstGiven Part.Lacks (structParts e) defect) ↔
      e.attr? "name" = none ∨ ∃ m ∈ countedMembers e, Untyped m := by
  rw [exists_firstGiven_iff, structParts, List.exists_mem_cons_iff, exists_lacks_struct_iff]
  cases named : e.attr? "name" with
  | none => exact ⟨fun _ => .inl rfl, fun _ => .inl rfl⟩
  | some owner =>
    apply or_congr_right
    rw [← exists_firstGiven_iff, exists_congr fun _ => firstGiven_map, exists_firstGiven_iff]
    simp only [exists_lacks_member_iff]

/-- Requirements are defective where one of their enumerants is. -/
lemma exists_defect_required_iff :
    (∃ defect, FirstGiven Part.Lacks ((requiredEnums e).map .enumerant) defect) ↔
      ∃ r ∈ e.elementsNamed "require", ∃ x ∈ r.elementsNamed "enum", Unnumbered x := by
  rw [requiredEnums, List.map_flatMap, exists_firstGiven_flatMap]
  simp only [firstGiven_map, exists_firstGiven_iff, exists_lacks_enumerant_iff]

/-- A feature is defective without a name, or where its requirements are. -/
lemma exists_defect_feature_iff :
    (∃ defect, FirstGiven Part.Lacks (featureParts e) defect) ↔
      e.attr? "name" = none ∨ ∃ r ∈ e.elementsNamed "require", ∃ x ∈ r.elementsNamed "enum", Unnumbered x := by
  rw [exists_firstGiven_iff, featureParts, List.exists_mem_cons_iff, exists_lacks_feature_iff,
    ← exists_firstGiven_iff, exists_defect_required_iff]

/-- An extension without a name is passed over, so that only one with a name can be defective. -/
lemma exists_defect_extension_iff :
    (∃ defect, FirstGiven Part.Lacks (extensionParts e) defect) ↔
      e.attr? "name" ≠ none ∧ ∃ r ∈ e.elementsNamed "require", ∃ x ∈ r.elementsNamed "enum", Unnumbered x := by
  rw [extensionParts, ← exists_defect_required_iff]
  cases named : e.attr? "name" with
  | none => exact ⟨fun ⟨_, given⟩ => (not_firstGiven_nil given).elim, fun given => (given.1 rfl).elim⟩
  | some name => exact (and_iff_right (Option.some_ne_none name)).symm

/-- The element declares a struct or a union. -/
def Composite (e : Element) : Prop :=
  e.attr? "category" = some "struct" ∨ e.attr? "category" = some "union"

/-- An element has the category that its attribute says. -/
lemma hasCategory_iff {category : String} (nonempty : category ≠ "") :
    hasCategory category e = true ↔ e.attr? "category" = some category := by
  rw [hasCategory, beq_iff_eq]
  cases e.attr? "category" with
  | none => exact ⟨fun empty => (nonempty empty.symm).elim, nofun⟩
  | some other => exact (Option.some_inj).symm

/-- The elements of structs are the structs and unions in blocks of types, for the API that is read. -/
lemma mem_structElements {t : Element} :
    t ∈ structElements root ↔ ∃ block ∈ root.elementsNamed "types", t ∈ block.elementsNamed "type" ∧
      targetsApi t = true ∧ Composite t := by
  rw [structElements, List.mem_filter, List.mem_filter, List.mem_flatMap, Bool.or_eq_true,
    hasCategory_iff (by decide), hasCategory_iff (by decide), ← Composite, and_assoc, ← exists_and_right]
  simp only [and_assoc]

/-- Reading a document fails exactly when a struct or union of the API that is read has no name, or a member of it
that carries data has no type, when a feature has no name, or when an enumerant required by a feature or by an
extension with a name has an offset or an extension number that is no number. The error is the first defect of
the document. -/
theorem ofDocument_eq_error_iff (root : Element) :
    (∀ defect, Registry.ofDocument root = .error defect ↔ FirstGiven Part.Lacks (parts root) defect) ∧
    ((∃ defect, Registry.ofDocument root = .error defect) ↔
      (∃ block ∈ root.elementsNamed "types", ∃ t ∈ block.elementsNamed "type", targetsApi t = true ∧ Composite t ∧
        (t.attr? "name" = none ∨
          ∃ m ∈ t.elementsNamed "member", targetsApi m = true ∧ Untyped m)) ∨
      (∃ f ∈ root.elementsNamed "feature", f.attr? "name" = none ∨
        ∃ r ∈ f.elementsNamed "require", ∃ e ∈ r.elementsNamed "enum", Unnumbered e) ∨
      ∃ block ∈ root.elementsNamed "extensions", ∃ x ∈ block.elementsNamed "extension", x.attr? "name" ≠ none ∧
        ∃ r ∈ x.elementsNamed "require", ∃ e ∈ r.elementsNamed "enum", Unnumbered e) ∧
    ∀ rules defect, Registry.ofDocument root = .error defect →
      Model.build root rules = .error (.declaration defect) ∧
        (RegistryError.declaration defect).message = "Malformed registry document: " ++ defect.message := by
  refine ⟨fun _ => ofDocument_eq_error_iff_first, ?_, ?_⟩
  · simp only [ofDocument_eq_error_iff_first, parts, exists_firstGiven_append, exists_firstGiven_flatMap,
      exists_defect_struct_iff, exists_defect_feature_iff, exists_defect_extension_iff]
    refine or_congr ?_ (or_congr_right ?_)
    · constructor
      · rintro ⟨t, listed, lacking⟩
        obtain ⟨block, held, declared, target, composite⟩ := mem_structElements.1 listed
        refine ⟨block, held, t, declared, target, composite, lacking.imp_right ?_⟩
        rintro ⟨m, counted, untyped⟩
        exact ⟨m, (List.mem_filter.1 counted).1, (List.mem_filter.1 counted).2, untyped⟩
      · rintro ⟨block, held, t, declared, target, composite, lacking⟩
        refine ⟨t, mem_structElements.2 ⟨block, held, declared, target, composite⟩, lacking.imp_right ?_⟩
        rintro ⟨m, listed, counted, untyped⟩
        exact ⟨m, List.mem_filter.2 ⟨listed, counted⟩, untyped⟩
    · constructor
      · rintro ⟨x, listed, lacking⟩
        obtain ⟨block, held, declared⟩ := List.mem_flatMap.1 listed
        exact ⟨block, held, x, declared, lacking⟩
      · rintro ⟨block, held, x, declared, lacking⟩
        exact ⟨x, List.mem_flatMap.2 ⟨block, held, declared⟩, lacking⟩
  · intro rules defect failed
    rw [Model.build, failed]
    exact ⟨rfl, rfl⟩

/-- A struct of another API and an extension without a name shield what is in them; the extension number of an
enumerant is told only where its offset is a number. -/
def shielding : Element :=
  ⟨"registry", [], [
    .element "types" [] [
      .element "type" [("category", "struct"), ("api", "vulkansc")] []],
    .element "extensions" [] [
      .element "extension" [] [
        .element "require" [] [.element "enum" [("name", "VK_A"), ("extends", "VkFormat"), ("offset", "a")] []]],
      .element "extension" [("name", "VK_EXT_b")] [
        .element "require" [] [
          .element "enum" [("name", "VK_B"), ("extnumber", "b"), ("offset", "c")] [],
          .element "enum" [("name", "VK_C"), ("extends", "VkFormat"), ("extnumber", "d"), ("offset", "1")] []]]]]⟩

example : Registry.ofDocument shielding = .error (.notANumber "extnumber" "d" "VK_C") := rfl

end CapabilityRegistry.Extraction
