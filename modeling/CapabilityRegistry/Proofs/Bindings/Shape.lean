import CapabilityRegistry.Proofs.Bindings.Unknown
import CapabilityRegistry.Proofs.Member

/-!
# Shapes of fields

The type of a field has as many pointers as its declaration has stars, modulo 256, because a member counts
them in eight bits (`levels_iff`). It is an array once at most, because a member holds one array size: of the
sizes in brackets behind a name the first one counts (`lengths_of_sizes`).
-/

namespace CapabilityRegistry

open Markup (Element)

/-! ## Sizes in brackets -/

/-- A size in brackets. -/
def inBrackets (size : List Char) : List Char :=
  '[' :: size ++ [']']

/-- The size that counts, of sizes in brackets behind each other: the first one, if it is not blank. Brackets
without anything in them do not count. -/
def keptSize? (sizes : List (List Char)) : Option String :=
  ((sizes.find? (· ≠ [])).map fun size => String.ofList (Text.trim size)).filter (· ≠ "")

/-- Of sizes in brackets the first one with something in it is read. -/
lemma bracketed?_flatMap {sizes : List (List Char)} (closed : ∀ size ∈ sizes, ']' ∉ size) :
    bracketed? (sizes.flatMap inBrackets) = sizes.find? (· ≠ []) := by
  induction sizes with
  | nil => rfl
  | cons size sizes ih =>
    have apart : ']' ∉ size := closed size List.mem_cons_self
    have ih := ih fun size mem => closed size (List.mem_cons_of_mem _ mem)
    have text : (size :: sizes).flatMap inBrackets = '[' :: (size ++ ']' :: sizes.flatMap inBrackets) := by
      simp [inBrackets]
    rw [text, bracketed?]
    cases size with
    | nil =>
      rw [if_neg (by simp), List.nil_append, bracketed?, if_neg (by simp), ih]
      rfl
    | cons c size =>
      have differ : c ≠ ']' := fun same => apart (same ▸ List.mem_cons_self)
      rw [if_pos (by simp [differ]), List.find?_cons_of_pos (by simp)]
      have kept : ∀ x ∈ c :: size, decide (x ≠ ']') = true := by
        intro x mem
        rw [decide_eq_true_iff]
        rintro rfl
        exact apart mem
      rw [List.takeWhile_append_of_pos kept]
      simp

/-- The length that is read off is that of the size that counts. -/
lemma arrayLength?_flatMap {sizes : List (List Char)} (closed : ∀ size ∈ sizes, ']' ∉ size) :
    arrayLength? (sizes.flatMap inBrackets) = keptSize? sizes := by
  rw [arrayLength?, bracketed?_flatMap closed, keptSize?]

namespace Bindings
namespace FieldType

/-- Pointers around a type add to those inside. -/
@[simp]
lemma pointerCount_pointers {depth : Nat} {isConst : Bool} {target : FieldType} :
    (pointers depth isConst target).pointerCount = target.pointerCount + depth := by
  induction depth using pointers.induct with
  | case1 => rfl
  | case2 => rfl
  | case3 outer ih => rw [pointers, pointerCount, ih, Nat.add_assoc]

/-- Pointers around a base type make no array of it. -/
@[simp]
lemma lengths_pointers {depth : Nat} {isConst : Bool} {name : String} :
    (pointers depth isConst (base name)).lengths = [] := by
  cases depth using pointers.fun_cases with
  | case1 => rfl
  | case2 => rfl
  | case3 outer => rfl

end FieldType

variable {reg : Registry} {owner : String} {e : Element} {m : Member} {sizes : List (List Char)}

/-- A member of a known type has a type, with its base type inside as many pointers as the member counts and
one array at most. -/
lemma exists_memberType (known : reg.classify m.typeName ≠ .unknown) :
    ∃ type, memberType reg owner m = .ok type ∧ baseType? reg m.typeName = some type.baseName ∧
      type.pointerCount = m.pointerDepth.toNat ∧ type.lengths = (m.arrayLen.map .ofText).toList := by
  obtain ⟨type, typed⟩ : ∃ type, memberType reg owner m = .ok type := by
    cases result : memberType reg owner m with
    | ok type => exact ⟨type, rfl⟩
    | error error => exact (known (memberType_eq_error.1 result).1).elim
  refine ⟨type, typed, baseName_of_memberType typed, ?_⟩
  unfold memberType at typed
  split at typed
  next => cases typed
  next base found =>
    cases typed
    cases m.arrayLen with
    | none => simp [FieldType.pointerCount]
    | some length => simp [FieldType.pointerCount, FieldType.lengths]

/-! ## Pointers -/

/-- The stars in a declaration up to the name of its member. -/
def stars (e : Element) : Nat :=
  (e.textBefore "name").toList.count '*'

/-- A member counts its stars in eight bits. Blanks around them do not matter. -/
lemma pointerDepth_eq (read : Extraction.member? owner e = .ok (some m)) :
    m.pointerDepth.toNat = stars e % 256 := by
  obtain ⟨name, typeName, _, _, rfl⟩ := Member.exists_ofElement read
  have solid : Text.isBlank '*' = false := by decide
  show ((Text.trim (e.textBefore "name").toList).count '*').toUInt8.toNat = _
  rw [Text.count_trim solid]
  exact UInt8.toNat_ofNat'

/-- A field has as many pointers as its declaration has stars modulo 256, each with a qualifier in front of the
base type, and its member is a pointer when there are any. These are all stars exactly where there are fewer
than 256. -/
theorem levels_iff (read : Extraction.member? owner e = .ok (some m))
    (known : reg.classify m.typeName ≠ .unknown) :
    ∃ type, memberType reg owner m = .ok type ∧ baseType? reg m.typeName = some type.baseName ∧
      Spells type.baseName type.qualifiers (type.lengths.map ArrayLength.render) type.render ∧
      type.qualifiers.length = stars e % 256 ∧
      type.pointerCount = stars e % 256 ∧ (m.isPointer = true ↔ 0 < stars e % 256) ∧
      ((type.pointerCount = stars e ∧ (m.isPointer = true ↔ 0 < stars e)) ↔ stars e < 256) := by
  obtain ⟨type, typed, inner, counted, _⟩ := exists_memberType known
  rw [pointerDepth_eq read] at counted
  have isPointer : m.isPointer = true ↔ 0 < stars e % 256 := by
    rw [← pointerDepth_eq read, Member.isPointer, decide_eq_true_iff]
    exact UInt8.lt_iff_toNat_lt
  refine ⟨type, typed, inner, FieldType.spells_render, FieldType.length_qualifiers.trans counted, counted,
    isPointer, ?_⟩
  rw [counted, isPointer]
  omega

/-- A member that is declared with so many stars. -/
def starred (count : Nat) : Element where
  name := "member"
  children := [.element "type" [] [.text "uint32_t"], .text (String.ofList (List.replicate count '*')),
    .element "name" [] [.text "pDeep"]]

/-- The member is declared with just so many stars. -/
lemma stars_starred {count : Nat} : stars (starred count) = count := by
  have before : (starred count).textBefore "name" =
      "uint32_t" ++ "" ++ (String.ofList (List.replicate count '*') ++ "") := rfl
  rw [stars, before]
  simp

/-- Two stars make two pointers. -/
theorem levels_iff_two :
    ∃ m type, Extraction.member? "VkPhysicalDeviceDepthProperties" (starred 2) = .ok (some m) ∧
      memberType {} "VkPhysicalDeviceDepthProperties" m = .ok type ∧ type.pointerCount = 2 ∧
        m.isPointer = true := by
  obtain ⟨m, read⟩ : ∃ m, Extraction.member? "VkPhysicalDeviceDepthProperties" (starred 2) = .ok (some m) :=
    ⟨_, rfl⟩
  have known : ({} : Registry).classify m.typeName ≠ .unknown := by
    cases read
    decide +kernel
  obtain ⟨type, typed, _, _, _, _, _, counts⟩ := levels_iff read known
  rw [stars_starred] at counts
  obtain ⟨levels, isPointer⟩ := counts.2 (by decide)
  exact ⟨m, type, read, typed, levels, isPointer.2 (by decide)⟩

/-- With 256 stars there is no pointer left. -/
theorem levels_lost_256 :
    ∃ m, Extraction.member? "VkPhysicalDeviceDepthProperties" (starred 256) = .ok (some m) ∧
      stars (starred 256) = 256 ∧ m.isPointer = false ∧
        memberType {} "VkPhysicalDeviceDepthProperties" m = .ok (.base "u32") := by
  obtain ⟨m, read, typeName, arrayLen⟩ : ∃ m,
      Extraction.member? "VkPhysicalDeviceDepthProperties" (starred 256) = .ok (some m) ∧
        m.typeName = "uint32_t" ∧ m.arrayLen = none := ⟨_, rfl, rfl, rfl⟩
  have depth : m.pointerDepth = 0 := by
    rw [← UInt8.toNat_inj, pointerDepth_eq read, stars_starred]
    rfl
  have base : baseType? {} m.typeName = some "u32" := by
    rw [typeName]
    decide +kernel
  refine ⟨m, read, stars_starred, ?_, ?_⟩
  · rw [Member.isPointer, depth]
    rfl
  · rw [memberType, base, arrayLen, depth]
    rfl

/-! ## Arrays -/

/-- A member holds the one size that counts of those behind its name. -/
lemma arrayLen_eq (read : Extraction.member? owner e = .ok (some m))
    (written : (e.textAfter "name").toList = sizes.flatMap inBrackets) (closed : ∀ size ∈ sizes, ']' ∉ size) :
    m.arrayLen = keptSize? sizes := by
  obtain ⟨name, typeName, _, _, rfl⟩ := Member.exists_ofElement read
  rw [← arrayLength?_flatMap closed, ← written, Member.ofElement]

/-- The length of an array of a size in brackets. -/
def sizeLength (size : List Char) : ArrayLength :=
  .ofText (String.ofList (Text.trim size))

/-- The first size counts where it is not blank. -/
lemma keptSize?_cons {size : List Char} (visible : Text.trim size ≠ []) :
    keptSize? (size :: sizes) = some (String.ofList (Text.trim size)) := by
  have nonempty : size ≠ [] := by
    rintro rfl
    exact visible rfl
  rw [keptSize?, List.find?_cons_of_pos (by simpa using nonempty), Option.map_some, Option.filter_some,
    if_pos (by simpa using visible)]

/-- A single blank size does not count. -/
lemma keptSize?_blank {size : List Char} (blank : Text.trim size = []) : keptSize? [size] = none := by
  by_cases empty : size = []
  · subst empty
    rfl
  · rw [keptSize?, List.find?_cons_of_pos (by simpa using empty), Option.map_some, blank]
    rfl

/-- All sizes count where there is one at most, and that one is not blank. -/
lemma keptSize?_all_iff :
    ((keptSize? sizes).map ArrayLength.ofText).toList = sizes.map sizeLength ↔
      sizes.length ≤ 1 ∧ ∀ size ∈ sizes, Text.trim size ≠ [] := by
  match sizes with
  | [] => exact iff_of_true rfl ⟨Nat.zero_le 1, nofun⟩
  | [size] =>
    by_cases blank : Text.trim size = []
    · rw [keptSize?_blank blank]
      exact iff_of_false nofun fun all => all.2 size (List.mem_singleton_self size) blank
    · rw [keptSize?_cons blank]
      exact iff_of_true rfl ⟨Nat.le_refl 1, fun size' mem => List.mem_singleton.1 mem ▸ blank⟩
  | first :: second :: rest =>
    refine iff_of_false (fun same => ?_) fun all => absurd all.1 (by simp)
    have kept := congrArg List.length same
    have most := Option.length_toList_le (o := (keptSize? (first :: second :: rest)).map ArrayLength.ofText)
    simp at kept
    omega

/-- Behind a name with sizes in brackets, a field is an array once at most, with one pair of brackets in its text:
of the first size, unless that is blank. So it has all the dimensions of its declaration exactly where there is
one at most, with a size that is not blank. -/
theorem lengths_of_sizes (read : Extraction.member? owner e = .ok (some m))
    (known : reg.classify m.typeName ≠ .unknown)
    (written : (e.textAfter "name").toList = sizes.flatMap inBrackets) (closed : ∀ size ∈ sizes, ']' ∉ size) :
    ∃ type, memberType reg owner m = .ok type ∧
      Spells type.baseName type.qualifiers (type.lengths.map ArrayLength.render) type.render ∧
      type.lengths.length ≤ 1 ∧
      (∀ size rest, sizes = size :: rest → Text.trim size ≠ [] → type.lengths = [sizeLength size]) ∧
      (type.lengths = sizes.map sizeLength ↔
        sizes.length ≤ 1 ∧ ∀ size ∈ sizes, Text.trim size ≠ []) := by
  obtain ⟨type, typed, _, _, lengths⟩ := exists_memberType known
  rw [arrayLen_eq read written closed] at lengths
  refine ⟨type, typed, FieldType.spells_render, ?_, ?_, ?_⟩
  · rw [lengths]
    cases keptSize? sizes with
    | none => exact Nat.zero_le 1
    | some size => exact Nat.le_refl 1
  · rintro size rest rfl visible
    rw [lengths, keptSize?_cons visible]
    rfl
  · rw [lengths]
    exact keptSize?_all_iff

/-- A matrix with these pieces of content behind its name. -/
def matrix (sizes : List Markup.Node) : Element where
  name := "member"
  children := [.element "type" [] [.text "float"], .text " ", .element "name" [] [.text "matrix"]] ++ sizes

/-- A size that is a named constant, in an element of its own. -/
theorem lengths_of_sizes_constant :
    ∃ m type,
      Extraction.member? "VkTransform" (matrix [.text "[", .element "enum" [] [.text "VK_ROWS"], .text "]"]) =
        .ok (some m) ∧
      memberType {} "VkTransform" m = .ok type ∧ type.lengths = [.constant "VK_ROWS"] := by
  let e := matrix [.text "[", .element "enum" [] [.text "VK_ROWS"], .text "]"]
  obtain ⟨m, read⟩ : ∃ m, Extraction.member? "VkTransform" e = .ok (some m) := ⟨_, rfl⟩
  have known : ({} : Registry).classify m.typeName ≠ .unknown := by
    cases read
    decide +kernel
  have written : (e.textAfter "name").toList = ["VK_ROWS".toList].flatMap inBrackets := by decide +kernel
  obtain ⟨type, typed, _, _, first, _⟩ := lengths_of_sizes read known written (by decide +kernel)
  exact ⟨m, type, read, typed, first _ _ rfl (by decide +kernel)⟩

/-- Of two sizes only the first is left. -/
theorem length_lost_matrix :
    ∃ m type, Extraction.member? "VkTransform" (matrix [.text "[3][4]"]) = .ok (some m) ∧
      ((matrix [.text "[3][4]"]).textAfter "name").toList = [['3'], ['4']].flatMap inBrackets ∧
        memberType {} "VkTransform" m = .ok type ∧ type = .array (.base "f32") (.number 3) ∧
          type.lengths ≠ [['3'], ['4']].map sizeLength := by
  refine ⟨_, _, rfl, ?_, rfl, ?_, ?_⟩
  all_goals decide +kernel

end Bindings

end CapabilityRegistry
