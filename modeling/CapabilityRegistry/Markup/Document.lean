import CapabilityRegistry.Markup.Node
import CapabilityRegistry.Markup.Tag

/-!
# Documents

A document is read token by token into the elements that are open and the root that is complete. It
is accepted if every tag is closed by its own end tag and there is one root.
-/

namespace CapabilityRegistry.Markup

/-- An element whose end tag has not come yet; its content is held in reverse. -/
structure Frame where
  name : String
  attributes : List (String × String)
  content : List Node := []

/-- The element that a frame becomes at its end tag. -/
def Frame.close (f : Frame) : Element :=
  ⟨f.name, f.attributes, f.content.reverse⟩

/-- What has been read of a document: the open elements, innermost first, and the root. -/
structure Progress where
  frames : List Frame := []
  root : Option Element := none

namespace Progress

/-- Puts a run of text into the innermost open element; outside of all it leaves no trace. -/
def addText (p : Progress) (content : List Char) : Progress :=
  match p.frames with
  | [] => p
  | f :: outer =>
    { p with frames := { f with content := .text (String.ofList content) :: f.content } :: outer }

/-- Puts a complete element into the innermost open one, or makes it the root. -/
def addElement (p : Progress) (e : Element) : Except Fault Progress :=
  match p.frames with
  | f :: outer => .ok { p with frames := { f with content := e.toNode :: f.content } :: outer }
  | [] => if p.root.isNone then .ok { p with root := some e } else .error .secondRoot

/-- The name in an end tag: trailing white space does not count, unless there is nothing else. -/
def closeName (content : List Char) : List Char :=
  if content.all isSpace then content else Text.dropEndWhile isSpace content

/-- Closes the innermost open element, whose name must be that of the end tag. -/
def closeElement (p : Progress) (stop : Nat) (name : String) : Except Fault Progress :=
  match p.frames with
  | [] => .error (.malformed stop (.unmatchedClose name))
  | f :: outer =>
    if f.name = name then { p with frames := outer }.addElement f.close
    else .error (.malformed stop (.mismatchedClose f.name name))

/-- Reads a token. -/
def step (p : Progress) (located : Located) : Except Fault Progress :=
  match located.token with
  | .ignored => .ok p
  | .cdata content => .ok (p.addText content)
  | .text raw =>
    match unescape raw with
    | .ok content => .ok (p.addText content)
    | .error fault => .error (.entity fault)
  | .openTag content empty => do
    let attributes ← Tag.attributes content
    let frame : Frame := ⟨String.ofList (Tag.name content), attributes, []⟩
    if empty then p.addElement frame.close else return { p with frames := frame :: p.frames }
  | .closeTag content => p.closeElement located.stop (String.ofList (closeName content))

/-- The root of a document that has been read to its end. -/
def finish (p : Progress) : Except Fault Element :=
  match p.frames, p.root with
  | f :: _, _ => .error (.unclosed f.name)
  | [], some root => .ok root
  | [], none => .error .noRoot

end Progress

/-- The root element of a document. Of several faults the first one in the document counts. -/
def parse (document : String) : Except Fault Element := do
  let lexing := lex document.toList
  let progress ← lexing.tokens.foldlM Progress.step {}
  match lexing.fault with
  | some (position, fault) => throw (.malformed position fault)
  | none => progress.finish

end CapabilityRegistry.Markup
