import CapabilityRegistry.Proofs.Text
import CapabilityRegistry.Registry.Extraction

/-!
# Length attributes

The length attribute of a member lists components between commas: a member that counts the elements, or the
mark of strings. Only its first component is looked at by itself, and only in an attribute that is the mark as
a whole does its case not matter. So the attribute is read component by component exactly where no other
component comes behind a first one that is the mark, and where the mark is in lower case
(`readsComponents_iff`). A string whose mark comes first is taken for a list that the mark counts
(`not_readsComponents_markFirst`).
-/

namespace CapabilityRegistry

open Markup (Element)

namespace Member

/-- The components of a length attribute. -/
def components (len : String) : List String :=
  (Text.splitAt ',' len).map Text.trimmed

/-- A component marks a string, in capitals or not. -/
def IsMark (component : String) : Prop :=
  component.toList.map Char.toLower = nullTerminatedMark.toList

instance : DecidablePred IsMark :=
  fun _ => inferInstanceAs (Decidable (_ = _))

/-- A member says of a length attribute what its components say: it is a string when some component is the
mark, and it is counted by the first one that is not. -/
structure ReadsComponents (len : String) (m : Member) : Prop where
  string : m.nullTerminated = true ↔ ∃ c ∈ components len, IsMark c
  counting : m.lenAttr = (components len).find? (¬ IsMark ·)

variable {owner len first : String} {rest : List String} {e : Element} {m : Member}

/-! ## What is read -/

/-- A member that is read has its parts from its element. -/
lemma exists_ofElement (read : Extraction.member? owner e = .ok (some m)) :
    ∃ name typeName, e.childText? "name" = some name ∧ e.childText? "type" = some typeName ∧
      m = ofElement e name typeName := by
  unfold Extraction.member? at read
  split at read
  next => cases read
  next name named =>
    split at read
    next => cases read
    next =>
      split at read
      next => cases read
      next typeName typed =>
        cases read
        exact ⟨name, typeName, named, typed, rfl⟩

/-- A length attribute has one component at least, which may be empty. -/
lemma components_ne_nil (len : String) : ∃ first rest, components len = first :: rest := by
  obtain ⟨first, rest, eq, _⟩ := Text.pieces_eq_cons ',' len.toList
  exact ⟨_, _, by rw [components, Text.splitAt, eq, List.map_cons, List.map_cons]⟩

/-- Blanks around an attribute do not count for its components. -/
lemma components_eq (len : String) :
    components len = (Text.pieces ',' (Text.trim len.toList)).map fun p => String.ofList (Text.trim p) := by
  have blank : Text.isBlank ',' = false := by decide
  calc components len
    _ = ((Text.pieces ',' len.toList).map Text.trim).map String.ofList := by
      rw [components, Text.splitAt, List.map_map, List.map_map]
      refine List.map_congr_left fun p _ => ?_
      simp only [Function.comp, Text.trimmed, String.toList_ofList]
    _ = _ := by
      rw [← Text.map_trim_pieces_trim blank, List.map_map]
      rfl

/-- The attribute is the mark as a whole when the mark is its only component. -/
lemma isMark_trimmed_iff : IsMark (Text.trimmed len) ↔ ∃ c, components len = [c] ∧ IsMark c := by
  constructor
  · intro mark
    refine ⟨Text.trimmed len, ?_, mark⟩
    have single : ',' ∉ Text.trim len.toList := by
      intro mem
      rw [IsMark, Text.trimmed, String.toList_ofList] at mark
      have mem := List.mem_map_of_mem (f := Char.toLower) mem
      rw [mark] at mem
      exact absurd mem (by decide)
    rw [components_eq, Text.pieces_of_not_mem single, List.map_singleton, Text.trim_trim, Text.trimmed]
  · intro h
    obtain ⟨c, sole, mark⟩ := h
    rw [components_eq] at sole
    obtain ⟨piece, single, rfl⟩ := List.map_eq_singleton_iff.1 sole
    rwa [← Text.eq_of_pieces_eq_singleton single, Text.trim_trim] at mark

/-- Around an attribute there is no mark. -/
lemma contains_trimmed : Text.contains (Text.trimmed len) nullTerminatedMark =
    Text.contains len nullTerminatedMark := by
  have solid : ∀ c ∈ nullTerminatedMark.toList, Text.isBlank c = false := by
    have all : nullTerminatedMark.toList.all (!Text.isBlank ·) = true := by decide +kernel
    intro c mem
    simpa using List.all_eq_true.1 all c mem
  rw [Bool.eq_iff_iff, Text.contains_iff, Text.contains_iff, Text.trimmed, String.toList_ofList,
    Text.infix_trim_iff solid]

/-- An attribute is the mark as a whole, or its first component counts. -/
lemma readLength_some : readLength (some len) =
    if IsMark (Text.trimmed len) then (none, true)
    else
      (some (String.ofList (Text.trim ((Text.pieces ',' (Text.trimmed len).toList).head?.getD []))),
        Text.contains (Text.trimmed len) nullTerminatedMark) :=
  rfl

/-- A mark alone makes a string of unknown length. -/
lemma readLength_sole (sole : ∃ c, components len = [c] ∧ IsMark c) : readLength (some len) = (none, true) := by
  rw [readLength_some, if_pos (isMark_trimmed_iff.2 sole)]

/-- Unless there is a mark alone, the first component is the length, whichever it is. -/
lemma readLength_others (parts : components len = first :: rest)
    (others : ¬ ∃ c, components len = [c] ∧ IsMark c) :
    readLength (some len) = (some first, Text.contains len nullTerminatedMark) := by
  rw [components_eq] at parts
  obtain ⟨piece, pieces, eq, rfl, _⟩ := List.map_eq_cons_iff.1 parts
  rw [readLength_some, if_neg (mt isMark_trimmed_iff.1 others), contains_trimmed, Text.trimmed,
    String.toList_ofList, eq]
  rfl

/-! ## Reading component by component -/

/-- The first component counts the elements when it is not the mark. -/
lemma find?_eq_first_iff :
    some first = (first :: rest).find? (fun c => decide (¬ IsMark c)) ↔ ¬ IsMark first := by
  constructor
  · intro found
    simpa using List.find?_some found.symm
  · intro plain
    rw [List.find?_cons_of_pos (by simpa using plain)]

/-- A length attribute is read component by component where the mark is its only component, or where its first
component is not the mark and some component is the mark exactly when the mark occurs in lower case. The
counting member is the mark exactly where the mark is the first of several components. -/
theorem readsComponents_iff (read : Extraction.member? owner e = .ok (some m))
    (attr : e.attr? "len" = some len) :
    (ReadsComponents len m ↔ (∃ c, components len = [c] ∧ IsMark c) ∨
      (∀ c, (components len).head? = some c → ¬ IsMark c) ∧
        ((∃ c ∈ components len, IsMark c) ↔ Text.contains len nullTerminatedMark = true)) ∧
    ((∃ c, m.lenAttr = some c ∧ IsMark c) ↔
      2 ≤ (components len).length ∧ ∃ c, (components len).head? = some c ∧ IsMark c) := by
  obtain ⟨name, typeName, _, _, rfl⟩ := exists_ofElement read
  have counting : (ofElement e name typeName).lenAttr = (readLength (some len)).1 := by
    rw [ofElement, attr]
  have string : (ofElement e name typeName).nullTerminated = (readLength (some len)).2 := by
    rw [ofElement, attr]
  obtain ⟨first, rest, parts⟩ := components_ne_nil len
  by_cases sole : ∃ c, components len = [c] ∧ IsMark c
  · rw [readLength_sole sole] at counting string
    obtain ⟨c, single, mark⟩ := sole
    refine ⟨⟨fun _ => .inl ⟨c, single, mark⟩, fun _ => ⟨?_, ?_⟩⟩, ?_⟩
    · rw [string, single]
      exact iff_of_true rfl ⟨c, List.mem_singleton_self c, mark⟩
    · rw [counting, single]
      simp [mark]
    · rw [counting, single]
      simp
  · rw [readLength_others parts sole] at counting string
    have several (mark : IsMark first) : 2 ≤ (components len).length := by
      cases rest with
      | nil => exact (sole ⟨first, parts, mark⟩).elim
      | cons second rest => simp [parts]
    have agrees : ReadsComponents len (ofElement e name typeName) ↔
        ¬ IsMark first ∧
          ((∃ c ∈ components len, IsMark c) ↔ Text.contains len nullTerminatedMark = true) := by
      have found : some first = (first :: rest).find? (fun c => decide (¬ IsMark c)) ↔ ¬ IsMark first :=
        find?_eq_first_iff
      dsimp only at counting string
      rw [← parts, ← counting] at found
      rw [← found, ← string]
      constructor
      · exact fun reads => ⟨reads.counting, reads.string.symm⟩
      · exact fun h => ⟨h.2.symm, h.1⟩
    constructor
    · rw [agrees, or_iff_right sole, parts]
      simp
    · rw [counting, parts, List.head?_cons]
      rw [parts] at several
      simp only [Option.some.injEq, exists_eq_left']
      exact ⟨fun mark => ⟨several mark, mark⟩, And.right⟩

/-- A list of names with a length attribute. -/
def layerNames (len : String) : Element where
  name := "member"
  attributes := [("len", len)]
  children := [.text "const ", .element "type" [] [.text "char"], .text "* const* ",
    .element "name" [] [.text "ppLayers"]]

/-- A mark behind a length is read as both say. -/
theorem readsComponents_iff_markLast :
    ∃ m, Extraction.member? "VkDeviceCreateInfo" (layerNames "layerCount, null-terminated") = .ok (some m) ∧
      ReadsComponents "layerCount, null-terminated" m ∧ m.lenAttr = some "layerCount" ∧
        m.nullTerminated = true := by
  obtain ⟨m, read⟩ : ∃ m, Extraction.member? "VkDeviceCreateInfo" (layerNames "layerCount, null-terminated") =
      .ok (some m) := ⟨_, rfl⟩
  have attr : (layerNames "layerCount, null-terminated").attr? "len" = some "layerCount, null-terminated" := rfl
  have reads := (readsComponents_iff read attr).1.2 (.inr (by decide +kernel))
  refine ⟨m, read, reads, ?_, ?_⟩
  · rw [reads.counting]
    decide +kernel
  · rw [reads.string]
    decide +kernel

/-- Where the mark comes first, it is taken for the member that counts the elements. -/
theorem not_readsComponents_markFirst :
    ∃ m, Extraction.member? "VkDeviceCreateInfo" (layerNames "null-terminated,layerCount") = .ok (some m) ∧
      m.lenAttr = some "null-terminated" ∧ m.isDynamicList = true ∧
        ¬ ReadsComponents "null-terminated,layerCount" m := by
  obtain ⟨m, read⟩ : ∃ m, Extraction.member? "VkDeviceCreateInfo" (layerNames "null-terminated,layerCount") =
      .ok (some m) := ⟨_, rfl⟩
  have taken : m.lenAttr = some "null-terminated" := by
    cases read
    decide +kernel
  have isList : m.isDynamicList = true := by
    cases read
    decide +kernel
  refine ⟨m, read, taken, isList, fun reads => ?_⟩
  have counting := taken.symm.trans reads.counting
  exact absurd counting (by decide +kernel)

end Member

end CapabilityRegistry
