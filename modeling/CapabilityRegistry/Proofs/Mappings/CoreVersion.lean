import CapabilityRegistry.Mappings
import CapabilityRegistry.Proofs.Text
import Mathlib.Data.List.TakeWhile

/-!
# Names of core structs

A name has a core version exactly when it is spelt in one way (`ofName?_eq_some_iff`). The type tag of a core
struct names the version with its first digit parted from the others where there are two digits, and nowhere
else (`typeTag_eq_parted_iff`).
-/

namespace CapabilityRegistry.CoreVersion

variable {name start : String} {v : CoreVersion}

/-- A name is made of the start, `Vulkan`, two or more digits, and a category. -/
structure Names (start name : String) (v : CoreVersion) : Prop where
  spelling : name = start ++ "Vulkan" ++ v.digits ++ v.category
  digits : ∀ c ∈ v.digits.toList, c.isDigit = true
  several : 2 ≤ v.digits.toList.length
  category : v.category = "Properties" ∨ v.category = "Features"

namespace Names

/-- The digits of a core name end where its category starts. -/
lemma takeWhile_digits (named : Names start name v) :
    (v.digits.toList ++ v.category.toList).takeWhile Char.isDigit = v.digits.toList := by
  have ends : v.category.toList.takeWhile Char.isDigit = [] := by
    rcases named.category with category | category <;> rw [category] <;> decide
  rw [List.takeWhile_append_of_pos named.digits, ends, List.append_nil]

/-- Behind the digits of a core name there is its category. -/
lemma dropWhile_digits (named : Names start name v) :
    (v.digits.toList ++ v.category.toList).dropWhile Char.isDigit = v.category.toList := by
  rw [List.dropWhile_append_of_pos named.digits]
  rcases named.category with category | category <;> rw [category] <;> decide

end Names

/-- A name has a core version when it is made of the start, `Vulkan`, two or more digits, and a category. -/
theorem ofName?_eq_some_iff : ofName? name start = some v ↔ Names start name v := by
  constructor
  · intro named
    obtain ⟨rest, started, named⟩ := Option.bind_eq_some_iff.1 named
    obtain ⟨tail, marked, named⟩ := Option.bind_eq_some_iff.1 named
    dsimp only at named
    split at named
    next fits =>
      cases named
      refine ⟨?_, ?_, ?_, fits.2⟩
      · apply String.toList_injective
        simp only [String.toList_append, String.toList_ofList, List.append_assoc,
          List.takeWhile_append_dropWhile]
        rw [Text.stripStart?_eq_some_iff.1 started, Text.stripStart?_eq_some_iff.1 marked]
      · intro c digit
        rw [String.toList_ofList] at digit
        exact List.mem_takeWhile_imp digit
      · rw [String.toList_ofList]
        exact fits.1
    next => cases named
  · intro named
    have started : Text.stripStart? start name.toList =
        some ("Vulkan".toList ++ (v.digits.toList ++ v.category.toList)) := by
      rw [Text.stripStart?_eq_some_iff, named.spelling]
      simp only [String.toList_append, List.append_assoc]
    have marked := Text.stripStart?_eq_some_iff.2
      (rfl : "Vulkan".toList ++ (v.digits.toList ++ v.category.toList) = _)
    refine Option.bind_eq_some_iff.2 ⟨_, started, Option.bind_eq_some_iff.2 ⟨_, marked, ?_⟩⟩
    dsimp only
    rw [named.takeWhile_digits, named.dropWhile_digits, String.ofList_toList, String.ofList_toList]
    exact if_pos ⟨named.several, named.category⟩

/-- The name of a core struct tells its category. -/
lemma contains_category (named : ofName? name start = some v) :
    Text.contains name v.category = true := by
  rw [(ofName?_eq_some_iff.1 named).spelling, Text.contains_iff, String.toList_append]
  exact List.infix_append_right

/-! ## Versions and type tags -/

/-- The type tag of a core struct of a version. -/
def tagOf (version category : String) : String :=
  "VK_STRUCTURE_TYPE_PHYSICAL_DEVICE_VULKAN_" ++ version ++ "_" ++ Text.uppercase category

/-- The first digit of a version parted from the others. -/
def parted (digits : String) : String :=
  String.ofList (digits.toList.take 1) ++ "_" ++ String.ofList (digits.toList.drop 1)

/-- The type tag of a core version has its digits parted, or not, as `tagVersion` says. -/
lemma typeTag_eq (v : CoreVersion) : v.typeTag = tagOf v.tagVersion v.category := by
  unfold typeTag tagOf
  rfl

/-- Tags of one category differ in their versions. -/
lemma tagOf_injective {version version' category : String}
    (same : tagOf version category = tagOf version' category) : version = version' := by
  unfold tagOf at same
  simpa only [String.append_left_inj, String.append_right_inj] using same

/-- Two digits are parted into major and minor. -/
lemma tagVersion_of_two (two : v.digits.toList.length = 2) : v.tagVersion = parted v.digits := by
  obtain ⟨major, minor, digits⟩ := List.length_eq_two.1 two
  rw [tagVersion, parted, digits]
  apply String.toList_injective
  simp only [String.toList_append, String.toList_ofList]
  rfl

/-- Any other number of digits is left together. -/
lemma tagVersion_of_others (others : v.digits.toList.length ≠ 2) : v.tagVersion = v.digits := by
  unfold tagVersion
  split
  next digits => exact absurd (congrArg List.length digits) others
  next => rfl

/-- Parting adds a character. -/
lemma parted_ne (digits : String) : parted digits ≠ digits := by
  intro same
  have longer := congrArg (fun s => s.toList.length) same
  simp [parted] at longer
  omega

/-- A type tag names a version with its first digit parted exactly where there are two digits. -/
theorem typeTag_eq_parted_iff :
    v.typeTag = tagOf (parted v.digits) v.category ↔ v.digits.toList.length = 2 := by
  constructor
  · intro same
    have version := tagOf_injective ((typeTag_eq v).symm.trans same)
    by_contra others
    rw [tagVersion_of_others others] at version
    exact parted_ne v.digits version.symm
  · intro two
    rw [typeTag_eq, tagVersion_of_two two]

/-- The type tag of a core struct starts as all of them do. -/
lemma typeTag_ne_empty (v : CoreVersion) : v.typeTag ≠ "" := by
  have start : "VK_STRUCTURE_TYPE_PHYSICAL_DEVICE_VULKAN_" ≠ "" := by decide
  unfold typeTag
  intro empty
  simp only [String.append_eq_empty_iff] at empty
  exact start empty.1.1.1

end CapabilityRegistry.CoreVersion
