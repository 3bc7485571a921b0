import CapabilityRegistry.Markup.Entity
import CapabilityRegistry.Markup.Node

/-!
# Writing markup

The plain form of a tree: each element with a start tag and an end tag, attributes in double quotes,
and the characters of the markup as entities.
-/

namespace CapabilityRegistry.Markup

/-- An attribute with the space before it. -/
def printAttribute (a : String × String) : List Char :=
  ' ' :: a.1.toList ++ "=\"".toList ++ escape a.2.toList ++ ['"']

mutual
/-- The markup of a piece of content. -/
def Node.print : Node → List Char
  | .text content => escape content.toList
  | .element name attributes children =>
    '<' :: name.toList ++ attributes.flatMap printAttribute ++ '>' :: Node.printAll children
      ++ "</".toList ++ name.toList ++ ['>']

/-- The markup of several pieces of content. -/
def Node.printAll : List Node → List Char
  | [] => []
  | node :: rest => node.print ++ Node.printAll rest
end

/-- The document with this root. -/
def Element.print (e : Element) : String :=
  String.ofList e.toNode.print

end CapabilityRegistry.Markup
