import CapabilityRegistry.Markup.Node
import CapabilityRegistry.Registry.Declaration

/-!
# Reading members

A member is a C declaration spread over text and elements: qualifiers and type before its name, array
sizes after it, and the counting member in the attribute `len`.
-/

namespace CapabilityRegistry

open Markup (Element)

/-- The length attribute that marks a string. -/
def nullTerminatedMark : String := "null-terminated"

/-- The size in the first brackets with content: the text up to the next closing bracket. -/
def bracketed? : List Char → Option (List Char)
  | [] => none
  | c :: cs =>
    if c = '[' ∧ ']' ∈ cs ∧ cs.head? ≠ some ']' then some (cs.takeWhile (· ≠ ']'))
    else bracketed? cs

/-- The array size in the text after the name of a member; blanks alone are none. -/
def arrayLength? (tail : List Char) : Option String :=
  ((bracketed? tail).map fun size => String.ofList (Text.trim size)).filter (· ≠ "")

/-- The counting member, and whether the member is a string, from the length attribute. -/
def readLength (len : Option String) : Option String × Bool :=
  match len.map Text.trimmed with
  | none => (none, false)
  | some len =>
    if len.toList.map Char.toLower = nullTerminatedMark.toList then (none, true)
    else
      let first := (Text.pieces ',' len.toList).head?.getD []
      (some (String.ofList (Text.trim first)), Text.contains len nullTerminatedMark)

/-- Reads a member with a name and a base type. -/
def Member.ofElement (e : Element) (name typeName : String) : Member :=
  let cType := Text.trim (e.textBefore "name").toList
  let (lenAttr, nullTerminated) := readLength (e.attr? "len")
  { name
    typeName
    cType := String.ofList cType
    isConst := Text.hasWord "const".toList cType
    pointerDepth := (cType.count '*').toUInt8
    arrayLen := arrayLength? (e.textAfter "name").toList
    lenAttr
    nullTerminated }

end CapabilityRegistry
