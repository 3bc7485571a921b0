/-!
# Faults of a document

What can be wrong with a document, each with the position that its message names. Positions count the
bytes of the document in UTF-8, or those of a tag or a run of text where the fault lies inside one.
-/

namespace CapabilityRegistry.Markup

/-- A construct that does not end, or tags that do not match. -/
inductive StructureFault where
  | unknownMarkup
  | openInstruction
  | openComment
  | openDoctype
  | openCData
  | openTag
  | unmatchedClose (name : String)
  | mismatchedClose (expected found : String)
  | namelessDoctype
  deriving DecidableEq, Repr

/-- Attributes that cannot be read. -/
inductive AttributeFault where
  | missingEquals (position : Nat)
  | missingValue (position : Nat)
  | unquotedValue (position : Nat)
  | openValue (position : Nat) (quote : Char)
  | duplicate (position previous : Nat)
  deriving DecidableEq, Repr

/-- A character reference that denotes no character. -/
inductive ReferenceFault where
  | signed
  | empty
  | invalidDigit
  | tooLarge
  | null
  | invalidCodepoint (code : Nat)
  deriving DecidableEq, Repr

/-- An entity that cannot be replaced. -/
inductive EntityFault where
  | unterminated (start stop : Nat)
  | unrecognized (start stop : Nat) (name : String)
  | reference (fault : ReferenceFault)
  deriving DecidableEq, Repr

/-- Whatever is wrong with a document. -/
inductive Fault where
  | malformed (position : Nat) (fault : StructureFault)
  | attributes (fault : AttributeFault)
  | entity (fault : EntityFault)
  | secondRoot
  | unclosed (name : String)
  | noRoot
  deriving DecidableEq, Repr

/-- The wording of a fault of structure. -/
def StructureFault.message : StructureFault → String
  | unknownMarkup => "syntax error: unknown or missed symbol in markup"
  | openInstruction =>
    "syntax error: processing instruction or xml declaration not closed: `?>` not found before end of input"
  | openComment => "syntax error: comment not closed: `-->` not found before end of input"
  | openDoctype => "syntax error: DOCTYPE not closed: `>` not found before end of input"
  | openCData => "syntax error: CDATA not closed: `]]>` not found before end of input"
  | openTag => "syntax error: tag not closed: `>` not found before end of input"
  | unmatchedClose name =>
    "ill-formed document: close tag `</" ++ name ++ ">` does not match any open tag"
  | mismatchedClose expected found =>
    "ill-formed document: expected `</" ++ expected ++ ">`, but `</" ++ found ++ ">` was found"
  | namelessDoctype =>
    "ill-formed document: `<!DOCTYPE>` declaration does not contain a name of a document type"

/-- The wording of a fault in attributes. -/
def AttributeFault.message : AttributeFault → String
  | missingEquals position =>
    "position " ++ toString position ++ ": attribute key must be directly followed by `=` or space"
  | missingValue position =>
    "position " ++ toString position ++ ": `=` must be followed by an attribute value"
  | unquotedValue position =>
    "position " ++ toString position ++ ": attribute value must be enclosed in `\"` or `'`"
  | openValue position quote =>
    "position " ++ toString position ++ ": missing closing quote `" ++ quote.toString
      ++ "` in attribute value"
  | duplicate position previous =>
    "position " ++ toString position ++ ": duplicated attribute, previous declaration at position "
      ++ toString previous

/-- The wording of a fault in a character reference. -/
def ReferenceFault.message : ReferenceFault → String
  | signed => "unexpected number sign"
  | empty => "cannot parse integer from empty string"
  | invalidDigit => "invalid digit found in string"
  | tooLarge => "number too large to fit in target type"
  | null => "0x0 character is not permitted in XML"
  | invalidCodepoint code => "`" ++ toString code ++ "` is not a valid codepoint"

/-- The wording of a fault in an entity. -/
def EntityFault.message : EntityFault → String
  | unterminated start stop =>
    "Error while escaping character at range " ++ toString start ++ ".." ++ toString stop
      ++ ": Cannot find ';' after '&'"
  | unrecognized start stop name =>
    "at " ++ toString start ++ ".." ++ toString stop ++ ": unrecognized entity `" ++ name ++ "`"
  | reference fault => "invalid character reference: " ++ fault.message

/-- The wording of a fault. -/
def Fault.message : Fault → String
  | malformed position fault => "at byte " ++ toString position ++ ": " ++ fault.message
  | attributes fault => fault.message
  | entity fault => fault.message
  | secondRoot => "document has more than one root element"
  | unclosed name => "unexpected end of document inside <" ++ name ++ ">"
  | noRoot => "document has no root element"

end CapabilityRegistry.Markup
