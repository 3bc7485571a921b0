import CapabilityRegistry.Text.Blank

/-!
# Markup trees

Elements with attributes and mixed content. Text stands between the child elements in document order,
because a declaration of the registry is spread over both.
-/

namespace CapabilityRegistry.Markup

/-- A piece of content: a run of text, or an element with its attributes and its own content. -/
inductive Node where
  | text (content : String)
  | element (name : String) (attributes : List (String × String)) (children : List Node)
  deriving Repr

/-- An element. -/
structure Element where
  name : String
  attributes : List (String × String) := []
  children : List Node := []
  deriving Repr

/-- The element as a piece of content. -/
def Element.toNode (e : Element) : Node :=
  .element e.name e.attributes e.children

/-- The element that a piece of content is, if it is one. -/
def Node.element? : Node → Option Element
  | .text _ => none
  | .element name attributes children => some ⟨name, attributes, children⟩

mutual
/-- The text of a piece of content, that of all descendants included. -/
def Node.allText : Node → String
  | .text content => content
  | .element _ _ children => Node.joinText children

/-- The text of several pieces of content. -/
def Node.joinText : List Node → String
  | [] => ""
  | node :: rest => node.allText ++ Node.joinText rest
end

mutual
/-- The elements of a piece of content, each before its descendants. -/
def Node.descendants : Node → List Element
  | .text _ => []
  | .element name attributes children => ⟨name, attributes, children⟩ :: Node.allDescendants children

/-- The elements of several pieces of content, each before its descendants. -/
def Node.allDescendants : List Node → List Element
  | [] => []
  | node :: rest => node.descendants ++ Node.allDescendants rest
end

/-- The piece of content is an element of this name. -/
def Node.isNamed (tag : String) : Node → Bool
  | .text _ => false
  | .element name _ _ => name == tag

/-- The piece of content is text. -/
def Node.isText : Node → Bool
  | .text _ => true
  | .element .. => false

namespace Element

variable (e : Element)

/-- The value of an attribute. -/
def attr? (key : String) : Option String :=
  e.attributes.lookup key

/-- The child elements, in document order. -/
def elements : List Element :=
  e.children.filterMap Node.element?

/-- The child elements of one name. -/
def elementsNamed (tag : String) : List Element :=
  e.elements.filter (·.name == tag)

/-- The first child element of a name. -/
def child? (tag : String) : Option Element :=
  e.elements.find? (·.name == tag)

/-- The descendants of a name, each before its own descendants. -/
def descendantsNamed (tag : String) : List Element :=
  (Node.allDescendants e.children).filter (·.name == tag)

/-- The text of the element and all its descendants. -/
def allText : String :=
  Node.joinText e.children

/-- The text before the first child element. -/
def leadingText : String :=
  Node.joinText (e.children.takeWhile Node.isText)

/-- The trimmed text of the first child of a name, unless it is empty. -/
def childText? (tag : String) : Option String :=
  ((e.child? tag).map fun c => Text.trimmed c.allText).filter (· ≠ "")

/-- The text before the first child of a name. -/
def textBefore (tag : String) : String :=
  Node.joinText (e.children.takeWhile (!·.isNamed tag))

/-- The text after the first child of a name. Comments are no part of a declaration and are left
out. -/
def textAfter (tag : String) : String :=
  let after := (e.children.dropWhile (!·.isNamed tag)).drop 1
  Node.joinText (after.filter (!·.isNamed "comment"))

end Element

end CapabilityRegistry.Markup
