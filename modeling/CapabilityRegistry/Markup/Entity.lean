import CapabilityRegistry.Markup.Fault
import CapabilityRegistry.Numeral

/-!
# Entities

Text and attribute values write some characters as entities: the five named ones, and character
references by number. `unescape` replaces them; `escape` writes the named ones where they are needed.
-/

namespace CapabilityRegistry.Markup

/-- The length of a text in bytes of UTF-8. -/
def byteLength (cs : List Char) : Nat :=
  cs.foldr (fun c length => c.utf8Size + length) 0

namespace Entity

/-- Reads digits behind the number already read; the first digit that fails decides the fault. -/
def digits (base : Nat) (read : Nat) : List Char → Except ReferenceFault Nat
  | [] => .ok read
  | c :: cs =>
    match Numeral.digitValue? base c with
    | none => .error .invalidDigit
    | some d => if read * base + d < 1 <<< 32 then digits base (read * base + d) cs else .error .tooLarge

/-- Reads the number of a character reference. -/
def number (base : Nat) : List Char → Except ReferenceFault Nat
  | [] => .error .empty
  | '+' :: _ => .error .signed
  | '-' :: _ => .error .signed
  | cs => digits base 0 cs

/-- The character with this number. -/
def character (code : Nat) : Except ReferenceFault Char :=
  if code = 0 then .error .null
  else if code.isValidChar then .ok (Char.ofNat code)
  else .error (.invalidCodepoint code)

/-- The character that a reference such as `x41` or `65` denotes. -/
def reference (cs : List Char) : Except ReferenceFault Char := do
  match cs with
  | 'x' :: hex => character (← number 16 hex)
  | _ => character (← number 10 cs)

/-- The characters with a name of their own. -/
def named : List (List Char × Char) :=
  [("lt".toList, '<'), ("gt".toList, '>'), ("amp".toList, '&'), ("apos".toList, '\''),
    ("quot".toList, '"')]

/-- The character that an entity stands for; its name starts at byte `start`. -/
def resolve (start : Nat) (name : List Char) : Except EntityFault Char :=
  match name with
  | '#' :: digits => (reference digits).mapError .reference
  | _ =>
    match named.lookup name with
    | some c => .ok c
    | none => .error (.unrecognized start (start + byteLength name) (String.ofList name))

/-- Replaces the entities of a text that starts at byte `offset` of a run of `size` bytes. An entity
being read is held as its start and the reverse of its name. -/
def replace (size offset : Nat) (pending : Option (Nat × List Char)) :
    List Char → Except EntityFault (List Char)
  | [] =>
    match pending with
    | none => .ok []
    | some (start, _) => .error (.unterminated start size)
  | c :: cs =>
    let next := offset + c.utf8Size
    match pending with
    | none =>
      if c = '&' then replace size next (some (offset, [])) cs
      else (replace size next none cs).map (c :: ·)
    | some (start, name) =>
      if c = '&' then .error (.unterminated start size)
      else if c = ';' then do
        let image ← resolve (start + 1) name.reverse
        return image :: (← replace size next none cs)
      else replace size next (some (start, c :: name)) cs

end Entity

/-- Replaces the entities of a run of text. -/
def unescape (cs : List Char) : Except EntityFault (List Char) :=
  Entity.replace (byteLength cs) 0 none cs

/-- Writes a character so that it stands for itself in text and in a quoted value. -/
def escapeCharacter (c : Char) : List Char :=
  match c with
  | '&' => "&amp;".toList
  | '<' => "&lt;".toList
  | '>' => "&gt;".toList
  | '"' => "&quot;".toList
  | _ => [c]

/-- Writes a text so that `unescape` gives it back. -/
def escape (cs : List Char) : List Char :=
  cs.flatMap escapeCharacter

end CapabilityRegistry.Markup
