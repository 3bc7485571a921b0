import CapabilityRegistry.Markup.Node
import Mathlib.Data.List.TakeWhile
import Mathlib.Tactic.Lemma

/-!
# Text of mixed content

The text of an element around one of its children. The first child of a name cuts the content in two
(`child?_eq_some_iff`); the text before it, its own text and all text behind it are the text of the element, and
the text after it is that behind it without what comments say (`text_around_child`).
-/

namespace CapabilityRegistry.Markup

variable {e c : Element} {tag : String} {node : Node} {before after nodes : List Node}

/-! ## Joined text -/

/-- Joined text is that of the nodes one after the other. -/
lemma joinText_eq : Node.joinText nodes = String.join (nodes.map Node.allText) := by
  induction nodes with
  | nil => rfl
  | cons node nodes ih => rw [Node.joinText, List.map_cons, String.join_cons, ih]

/-- Text is joined piece by piece. -/
lemma joinText_append : Node.joinText (before ++ after) = Node.joinText before ++ Node.joinText after := by
  rw [joinText_eq, joinText_eq, joinText_eq, List.map_append, String.join_append]

/-- What a piece of content adds to a declaration: a comment adds nothing. -/
def Node.declaredText (node : Node) : String :=
  if node.isNamed "comment" then "" else node.allText

/-- Without comments the declared text of the nodes is left. -/
lemma joinText_filter :
    Node.joinText (nodes.filter (!·.isNamed "comment")) = String.join (nodes.map Node.declaredText) := by
  induction nodes with
  | nil => rfl
  | cons node nodes ih =>
    rw [List.map_cons, String.join_cons, ← ih, List.filter_cons, Node.declaredText]
    cases node.isNamed "comment" with
    | true => exact (String.empty_append).symm
    | false => rfl

/-! ## The first child of a name -/

/-- An element as a node has its own name. -/
lemma isNamed_toNode : c.toNode.isNamed tag = (c.name == tag) :=
  rfl

/-- The element that a piece of content is. -/
lemma element?_eq_some_iff : node.element? = some c ↔ node = c.toNode := by
  cases node with
  | text content => exact ⟨nofun, nofun⟩
  | element name attributes children =>
    constructor
    · intro same
      cases same
      rfl
    · intro same
      cases same
      rfl

/-- A node has a name where it is an element of that name. -/
lemma any_element? : node.element?.any (·.name == tag) = node.isNamed tag := by
  cases node with
  | text content => rfl
  | element name attributes children => rfl

/-- Children are found among all pieces of content. -/
lemma child?_eq : e.child? tag = (e.children.find? (·.isNamed tag)).bind Node.element? := by
  rw [Element.child?, Element.elements, List.find?_filterMap]
  simp only [any_element?]

/-- The first child of a name stands behind content without that name. -/
lemma child?_eq_some_iff :
    e.child? tag = some c ↔ ∃ before after, e.children = before ++ c.toNode :: after ∧ c.name = tag ∧
      ∀ node ∈ before, node.isNamed tag = false := by
  rw [child?_eq, Option.bind_eq_some_iff]
  simp only [element?_eq_some_iff, exists_eq_right, List.find?_eq_some_iff_append, isNamed_toNode, beq_iff_eq,
    Bool.not_eq_true']
  constructor
  · rintro ⟨named, before, after, split, others⟩
    exact ⟨before, after, split, named, others⟩
  · rintro ⟨before, after, split, named, others⟩
    exact ⟨named, before, after, split, others⟩

/-- There is no child of a name where no node has it. -/
lemma child?_eq_none_iff : e.child? tag = none ↔ ∀ node ∈ e.children, node.isNamed tag = false := by
  rw [child?_eq, Option.bind_eq_none_iff]
  constructor
  · intro none
    cases found : e.children.find? (·.isNamed tag) with
    | none => exact fun node mem => Bool.eq_false_iff.2 (List.find?_eq_none.1 found node mem)
    | some node =>
      have named := List.find?_some found
      cases node with
      | text content => cases named
      | element name attributes children => cases none _ found
  · intro others node found
    have named := List.find?_some found
    rw [others node (List.mem_of_find?_eq_some found)] at named
    cases named

/-! ## Text around it -/

/-- Nodes of other names are passed by. -/
lemma passed_of_unnamed (others : ∀ node ∈ nodes, node.isNamed tag = false) :
    ∀ node ∈ nodes, (!node.isNamed tag) = true := by
  intro node mem
  rw [others node mem]
  rfl

/-- Content without a name is passed over, and the child of that name is not. -/
lemma whiles_of_split (split : e.children = before ++ c.toNode :: after) (named : c.name = tag)
    (others : ∀ node ∈ before, node.isNamed tag = false) :
    e.children.takeWhile (!·.isNamed tag) = before ∧
      e.children.dropWhile (!·.isNamed tag) = c.toNode :: after := by
  have passed := passed_of_unnamed others
  have stop : (!c.toNode.isNamed tag) = false := by
    rw [isNamed_toNode, named, beq_self_eq_true]
    rfl
  rw [split, List.takeWhile_append_of_pos passed, List.dropWhile_append_of_pos passed, List.takeWhile_cons,
    List.dropWhile_cons, stop]
  exact ⟨List.append_nil before, rfl⟩

/-- Without a child of the name all content is in front of it. -/
lemma whiles_of_none (others : ∀ node ∈ e.children, node.isNamed tag = false) :
    e.children.takeWhile (!·.isNamed tag) = e.children ∧ e.children.dropWhile (!·.isNamed tag) = [] := by
  have passed := passed_of_unnamed others
  exact ⟨List.takeWhile_eq_self_iff.2 passed, List.dropWhile_eq_nil_iff.2 passed⟩

/-- The text of an element, cut at a child. -/
lemma allText_of_split (split : e.children = before ++ c.toNode :: after) :
    Node.joinText before ++ c.allText ++ Node.joinText after = e.allText := by
  have whole : e.allText = Node.joinText e.children := rfl
  have own : c.toNode.allText = c.allText := rfl
  rw [whole, split, joinText_append, Node.joinText, own, String.append_assoc]

/-- The first child of a name cuts the text of an element in three parts: what `textBefore` gives, the text of the
child, and the text of the content behind it. What `textAfter` gives is that of the content behind it where each
comment is left out, and nothing else. Without such a child all text comes before it. -/
theorem text_around_child (e : Element) (tag : String) :
    (∀ c, e.child? tag = some c → ∃ before after, e.children = before ++ c.toNode :: after ∧
      (∀ node ∈ before, node.isNamed tag = false) ∧
      e.textBefore tag = String.join (before.map Node.allText) ∧
      e.textBefore tag ++ c.allText ++ String.join (after.map Node.allText) = e.allText ∧
      e.textAfter tag = String.join (after.map Node.declaredText)) ∧
    (e.child? tag = none → e.textBefore tag = e.allText ∧ e.textAfter tag = "") := by
  constructor
  · intro c found
    obtain ⟨before, after, split, named, others⟩ := child?_eq_some_iff.1 found
    obtain ⟨taken, dropped⟩ := whiles_of_split split named others
    have first : e.textBefore tag = Node.joinText before := congrArg Node.joinText taken
    have second : e.textAfter tag = String.join (after.map Node.declaredText) := by
      rw [Element.textAfter, dropped]
      exact joinText_filter
    refine ⟨before, after, split, others, first.trans joinText_eq, ?_, second⟩
    rw [first, ← joinText_eq]
    exact allText_of_split split
  · intro missing
    obtain ⟨taken, dropped⟩ := whiles_of_none (child?_eq_none_iff.1 missing)
    constructor
    · exact congrArg Node.joinText taken
    · rw [Element.textAfter, dropped]
      rfl

/-- A member with comments on both sides of its name, one of them inside its size, and with a second name. -/
def twoNames : Element :=
  ⟨"member", [], [.text "const ", .element "comment" [] [.text "old "], .element "type" [] [.text "char"],
    .text "* ", .element "name" [] [.text "pName"], .text "[",
    .element "enum" [] [.element "comment" [] [.text "VK_"], .text "SIZE"], .text "]",
    .element "comment" [] [.text "note"], .element "name" [] [.text ":8"]]⟩

/-- Of two children of one name the first one parts the text. -/
theorem text_around_child_twoNames :
    twoNames.child? "name" = some ⟨"name", [], [.text "pName"]⟩ ∧
      twoNames.textBefore "name" = "const old char* " ∧ twoNames.textAfter "name" = "[VK_SIZE]:8" ∧
      ∃ before after, twoNames.children = before ++ .element "name" [] [.text "pName"] :: after ∧
        (∀ node ∈ before, node.isNamed "name" = false) ∧
        twoNames.textBefore "name" = String.join (before.map Node.allText) ∧
        twoNames.textBefore "name" ++ "pName" ++ String.join (after.map Node.allText) = twoNames.allText ∧
        twoNames.textAfter "name" = String.join (after.map Node.declaredText) :=
  ⟨rfl, rfl, rfl, (text_around_child twoNames "name").1 _ rfl⟩

end CapabilityRegistry.Markup
