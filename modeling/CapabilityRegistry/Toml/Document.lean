import CapabilityRegistry.Toml.Quoted
import CapabilityRegistry.Toml.Scalar
import CapabilityRegistry.Toml.Table

/-!
# TOML documents

A document is a sequence of statements: entries, and headers that open the table of the entries behind
them. Main definition: `parse?`, the entries of the whole document, or nothing if it is ill-formed.
-/

namespace CapabilityRegistry.Toml

/-- A character of an unquoted key. -/
def isKeyCharacter (c : Char) : Bool :=
  c.isAlphanum || c == '_' || c == '-'

/-- One part of a key. -/
def keyPart? (cs : List Char) : Option (String × List Char) :=
  match shortString? cs with
  | some found => some found
  | none =>
    let word := cs.takeWhile isKeyCharacter
    if word.isEmpty then none else some (String.ofList word, cs.dropWhile isKeyCharacter)

/-- The parts of a key between points, at most so many, and what follows the blanks behind them. -/
def key? (parts : Nat) (cs : List Char) : Option (List String × List Char) :=
  match parts with
  | 0 => none
  | parts + 1 => do
    let (part, rest) ← keyPart? (skipBlanks cs)
    match skipBlanks rest with
    | '.' :: more =>
      let (others, rest) ← key? parts more
      return (part :: others, rest)
    | rest => return ([part], rest)

/-- How many parts a key may have, and how deep arrays and tables in braces may be nested. -/
def depthLimit : Nat := 79

/-- A key and a value with an equals sign between them, and what follows the value. -/
def assignment? (value : List Char → Option (Value × List Char)) (cs : List Char) :
    Option ((List String × Value) × List Char) := do
  match ← key? depthLimit cs with
  | (key, '=' :: rest) =>
    let (held, rest) ← value (skipBlanks rest)
    return ((key, held), rest)
  | _ => none

/-- The items of an array up to its closing bracket. A comma may follow the last one. -/
def items? (value : List Char → Option (Value × List Char)) (cs : List Char) :
    Option (List Value × List Char) :=
  match skipSpacing false cs with
  | ']' :: rest => some ([], rest)
  | start => do
    let (item, rest) ← value start
    match skipSpacing false rest with
    | ']' :: rest => return ([item], rest)
    | ',' :: rest =>
      if rest.length < cs.length then
        let (items, rest) ← items? value rest
        return (item :: items, rest)
      else none
    | _ => none
termination_by cs.length

/-- The entries of a table in braces up to the closing one, put behind those that it has. -/
def members? (value : List Char → Option (Value × List Char)) (held : Entries) (cs : List Char) :
    Option (Entries × List Char) := do
  let ((key, item), rest) ← assignment? value cs
  let held ← held.put true key item
  match skipBlanks rest with
  | '\x7d' :: rest => return (held, rest)
  | ',' :: rest => if rest.length < cs.length then members? value held rest else none
  | _ => none
termination_by cs.length

/-- A value and what follows it, with so many levels of arrays and tables in braces. -/
def value? (levels : Nat) (cs : List Char) : Option (Value × List Char) :=
  match levels, cs with
  | levels + 1, '[' :: rest => (items? (value? levels) rest).map fun (items, rest) => (.array items, rest)
  | levels + 1, '\x7b' :: rest =>
    match skipBlanks rest with
    | '\x7d' :: rest => some (.table .braces [], rest)
    | rest =>
      (members? (value? levels) [] rest).map fun (entries, rest) => (.table .braces entries, rest)
  | _, cs =>
    match string? cs with
    | some (content, rest) => some (.string content, rest)
    | none => scalar? cs

/-- A statement of a document. -/
inductive Statement where
  | entry (key : List String) (value : Value)
  /-- A header in brackets. -/
  | table (path : List String)
  /-- A header in double brackets. -/
  | row (path : List String)
  deriving Repr

/-- A statement and what follows it on its line. -/
def statement? (cs : List Char) : Option (Statement × List Char) :=
  match cs with
  | '[' :: '[' :: rest => do
    match ← key? depthLimit rest with
    | (path, ']' :: ']' :: rest) => return (.row path, rest)
    | _ => none
  | '[' :: rest => do
    match ← key? depthLimit rest with
    | (path, ']' :: rest) => return (.table path, rest)
    | _ => none
  | _ => (assignment? (value? depthLimit) cs).map fun ((key, value), rest) => (.entry key value, rest)

/-- The statements of a document. -/
def statements? (cs : List Char) : Option (List Statement) :=
  match skipSpacing false cs with
  | [] => some []
  | start => do
    let (statement, rest) ← statement? start
    let rest ← statementEnd? rest
    if rest.length < cs.length then
      return statement :: (← statements? rest)
    else none
termination_by cs.length

/-- The entries of a document while it is read, and the path of the table that is open. -/
structure Draft where
  entries : Entries := []
  opened : List String := []

/-- Opens the last table of a path in the one before it. -/
def Draft.openAt (draft : Draft) (path : List String) (opening : String → Entries → Option Entries) :
    Option Draft := do
  let entries ← draft.entries.within path.dropLast (opening (← path.getLast?))
  return { entries, opened := path }

/-- Reads one statement. -/
def Draft.add (draft : Draft) : Statement → Option Draft
  | .entry key value => do
    let entries ← draft.entries.within draft.opened (Entries.put true key value)
    return { draft with entries }
  | .table path => draft.openAt path Entries.openTable
  | .row path => draft.openAt path Entries.openRow

/-- The entries of a document. A byte order mark before it does not count. -/
def parse? (document : String) : Option Entries := do
  let cs :=
    match document.toList with
    | '\uFEFF' :: rest => rest
    | cs => cs
  let draft ← (← statements? cs).foldlM Draft.add {}
  return draft.entries

end CapabilityRegistry.Toml
