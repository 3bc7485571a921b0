import CapabilityRegistry.Proofs.Distinct
import CapabilityRegistry.Proofs.Naming.SnakeCase
import CapabilityRegistry.Proofs.Text

/-!
# Names of capability fields

The field of a struct is named after what remains of the name without its affixes, in snake case, with the
vendor at its end (`ruledField`), or it is one of the exceptions (`structField_cases`). Either way it is an
identifier in lower case, and no letter or digit of what remains is lost or repeated (`structField_sound`).
-/

namespace CapabilityRegistry.Naming

variable {cs : List Char} {c : Char} {name field : String}

/-- A character of a name in the registry. -/
def IsNameCharacter (c : Char) : Prop :=
  c.isAlphanum = true ∨ c = '_'

/-- A character of the name of a field. -/
def IsFieldCharacter (c : Char) : Prop :=
  c.isLower = true ∨ c.isDigit = true ∨ c = '_'

instance : DecidablePred IsNameCharacter :=
  fun _ => inferInstanceAs (Decidable (_ ∨ _))

instance : DecidablePred IsFieldCharacter :=
  fun _ => inferInstanceAs (Decidable (_ ∨ _))

/-- The characters of a name that are letters or digits. -/
def alphanumerics (cs : List Char) : List Char :=
  cs.filter Char.isAlphanum

/-- The field of a struct by the rules for all names, before the exceptions. -/
def ruledField (name : String) : String :=
  String.ofList (snakeCase (stripAffixes name.toList)) ++ vendorEnding name

/-- A field is one of the exceptions, or it is by the rules. -/
lemma structField_cases (name : String) :
    (∃ pair ∈ fieldExceptions, pair.1 = ruledField name ∧ structField name = pair.2) ∨
      structField name = ruledField name := by
  have eq : structField name = (fieldExceptions.lookup (ruledField name)).getD (ruledField name) := rfl
  cases exception : fieldExceptions.lookup (ruledField name) with
  | some field =>
    rw [exception] at eq
    exact .inl ⟨(ruledField name, field), mem_of_lookup exception, rfl, eq⟩
  | none =>
    rw [exception] at eq
    exact .inr eq

/-! ## Characters -/

/-- Names are in ASCII. -/
lemma IsNameCharacter.toNat_lt (plain : IsNameCharacter c) : c.toNat < 128 := by
  obtain alphanumeric | rfl := plain
  · exact Nat.lt_of_le_of_lt (Text.toNat_of_isAlphanum alphanumeric).2 (by decide)
  · decide

/-- In small letters a character of a name may stand in a field. -/
lemma IsNameCharacter.toLower (plain : IsNameCharacter c) : IsFieldCharacter c.toLower :=
  Text.of_ascii (p := fun c => IsNameCharacter c → IsFieldCharacter c.toLower) (by decide +kernel) plain.toNat_lt plain

/-- Letters and digits do not count underscores. -/
lemma alphanumerics_bare : alphanumerics (bare cs) = alphanumerics cs := by
  rw [alphanumerics, alphanumerics, bare, List.filter_filter]
  refine List.filter_congr fun c _ => ?_
  by_cases underscore : c = '_'
  · subst underscore
    rfl
  · simp [underscore]

/-! ## Affixes -/

/-- Stripping an affix adds no characters. -/
lemma mem_of_mem_stripAffix {affix : String} (mem : c ∈ stripAffix cs affix) : c ∈ cs := by
  have started : ∀ {ds : List Char}, c ∈ (Text.stripStart? affix ds).getD ds → c ∈ ds := by
    intro ds mem
    cases rest : Text.stripStart? affix ds with
    | none => rwa [rest] at mem
    | some rest' =>
      rw [rest] at mem
      rw [Text.stripStart?_eq_some_iff.1 rest]
      exact List.mem_append_right _ mem
  refine started ?_
  unfold stripAffix at mem
  dsimp only at mem
  cases rest : Text.stripEnd? affix ((Text.stripStart? affix cs).getD cs) with
  | none => rwa [rest] at mem
  | some rest' =>
    rw [rest] at mem
    rw [Text.stripEnd?_eq_some_iff.1 rest]
    exact List.mem_append_left _ mem

/-- Stripping all affixes adds no characters. -/
lemma mem_of_mem_stripAffixes (mem : c ∈ stripAffixes cs) : c ∈ cs := by
  have each : ∀ affixes : List String, ∀ {cs : List Char}, c ∈ affixes.foldl stripAffix cs → c ∈ cs := by
    intro affixes
    induction affixes with
    | nil => exact id
    | cons affix affixes ih => exact fun mem => mem_of_mem_stripAffix (ih mem)
  exact each structAffixes mem

/-- The vendor at the end of a name returns in one of the listed forms, or not at all. -/
lemma vendorEnding_cases (name : String) :
    vendorEnding name ∈ vendorEndings.map (·.2) ∨ vendorEnding name = "" := by
  unfold vendorEnding
  split
  next short found => exact .inl (List.mem_map_of_mem (f := (·.2)) (List.mem_of_find?_eq_some found))
  next => exact .inr rfl

/-- The ending of a vendor may stand in a field. -/
lemma isFieldCharacter_of_mem_vendorEnding (mem : c ∈ (vendorEnding name).toList) : IsFieldCharacter c := by
  have each : ∀ short ∈ vendorEndings.map (·.2), short.toList.Forall IsFieldCharacter := by decide +kernel
  obtain listed | none := vendorEnding_cases name
  · exact List.forall_iff_forall_mem.1 (each _ listed) c mem
  · rw [none] at mem
    cases mem

/-- The ending of a vendor starts with no digit. -/
lemma startsWithDigit_vendorEnding : startsWithDigit (vendorEnding name).toList = false := by
  have each : ∀ short ∈ vendorEndings.map (·.2), startsWithDigit short.toList = false := by decide +kernel
  obtain listed | none := vendorEnding_cases name
  · exact each _ listed
  · rw [none]
    rfl

/-! ## Fields -/

/-- The characters of a field by the rules, underscores apart. -/
lemma bare_ruledField (plain : ∀ c ∈ name.toList, IsNameCharacter c) :
    (bare (ruledField name).toList).Perm
      (bare ((stripAffixes name.toList).map Char.toLower ++ (vendorEnding name).toList)) := by
  have ascii : ∀ c ∈ stripAffixes name.toList, c.toNat < 128 :=
    fun c mem => (plain c (mem_of_mem_stripAffixes mem)).toNat_lt
  rw [ruledField, String.toList_append, String.toList_ofList, bare_append, bare_append]
  exact (bare_snakeCase ascii).append_right _

/-- All characters that the rules make of a name may stand in a field. -/
lemma isFieldCharacter_of_mem_ruledField (plain : ∀ c ∈ name.toList, IsNameCharacter c)
    (mem : c ∈ (ruledField name).toList) : IsFieldCharacter c := by
  obtain mem | rfl := mem_of_bare (bare_ruledField plain) mem
  · obtain base | ending := List.mem_append.1 mem
    · obtain ⟨c, within, rfl⟩ := List.mem_map.1 base
      exact (plain c (mem_of_mem_stripAffixes within)).toLower
    · exact isFieldCharacter_of_mem_vendorEnding ending
  · exact .inr (.inr rfl)

/-- A text that starts with no digit has none for its first character. -/
lemma not_digit_of_startsWithDigit (starts : startsWithDigit cs = false) :
    ∀ c, cs.head? = some c → c.isDigit = false := by
  intro c first
  obtain ⟨rest, rfl⟩ := List.head?_eq_some_iff.1 first
  exact starts

/-- A digit comes first in joined texts only if it does in one of them. -/
lemma startsWithDigit_append {ds : List Char} (starts : startsWithDigit cs = false)
    (starts' : startsWithDigit ds = false) : startsWithDigit (cs ++ ds) = false := by
  cases cs with
  | nil => exact starts'
  | cons c cs => exact starts

/-- The rules put no digit first. -/
lemma startsWithDigit_ruledField (name : String) : startsWithDigit (ruledField name).toList = false := by
  rw [ruledField, String.toList_append, String.toList_ofList]
  exact startsWithDigit_append (startsWithDigit_snakeCase _) startsWithDigit_vendorEnding

/-- The field of a struct has letters in lower case, digits and underscores, and starts with no digit. By the
rules, it has the letters and digits of the stripped name in lower case, and those of the vendor at its end. -/
theorem structField_sound (plain : ∀ c ∈ name.toList, IsNameCharacter c) :
    (∀ c ∈ (structField name).toList, IsFieldCharacter c) ∧
    (∀ c, (structField name).toList.head? = some c → c.isDigit = false) ∧
    (ruledField name ∉ fieldExceptions.map (·.1) →
      (alphanumerics (structField name).toList).Perm
        (alphanumerics ((stripAffixes name.toList).map Char.toLower ++ (vendorEnding name).toList))) := by
  obtain ⟨pair, listed, excepted, same⟩ | ruled := structField_cases name
  · have fields : ∀ pair ∈ fieldExceptions, pair.2.toList.Forall IsFieldCharacter := by decide +kernel
    have starts : ∀ pair ∈ fieldExceptions, startsWithDigit pair.2.toList = false := by decide +kernel
    rw [same]
    refine ⟨List.forall_iff_forall_mem.1 (fields pair listed),
      not_digit_of_startsWithDigit (starts pair listed), fun ruled => ?_⟩
    exact (ruled (List.mem_map.2 ⟨pair, listed, excepted⟩)).elim
  · rw [ruled]
    refine ⟨fun c => isFieldCharacter_of_mem_ruledField plain,
      not_digit_of_startsWithDigit (startsWithDigit_ruledField name), fun _ => ?_⟩
    have same := (bare_ruledField plain).filter Char.isAlphanum
    rwa [← alphanumerics, ← alphanumerics, alphanumerics_bare, alphanumerics_bare] at same

/-- A name with a leading number gets a field that starts with a letter. -/
theorem structField_sound_bitStorage :
    (∀ c ∈ "VkPhysicalDevice16BitStorageFeaturesKHR".toList, IsNameCharacter c) ∧
      structField "VkPhysicalDevice16BitStorageFeaturesKHR" = "bit16_storage_features_khr" ∧
      (alphanumerics "bit16_storage_features_khr".toList).Perm
        (alphanumerics ("16BitStorageFeatures".toList.map Char.toLower ++ "_khr".toList)) := by
  have plain : ∀ c ∈ "VkPhysicalDevice16BitStorageFeaturesKHR".toList, IsNameCharacter c :=
    List.forall_iff_forall_mem.1 (by decide +kernel)
  have field : structField "VkPhysicalDevice16BitStorageFeaturesKHR" = "bit16_storage_features_khr" := by
    decide +kernel
  have ruled : ruledField "VkPhysicalDevice16BitStorageFeaturesKHR" ∉ fieldExceptions.map (·.1) := by
    decide +kernel
  have stripped : stripAffixes "VkPhysicalDevice16BitStorageFeaturesKHR".toList =
      "16BitStorageFeatures".toList := by decide +kernel
  have ending : vendorEnding "VkPhysicalDevice16BitStorageFeaturesKHR" = "_khr" := by decide +kernel
  obtain ⟨_, _, conserved⟩ := structField_sound plain
  have conserved := conserved ruled
  rw [field, stripped, ending] at conserved
  exact ⟨plain, field, conserved⟩

end CapabilityRegistry.Naming
