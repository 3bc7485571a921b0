/-!
# TOML values

Values of a document with the tables as they were written: which entries a table may still receive
depends on how it came to be.
-/

namespace CapabilityRegistry.Toml

/-- How a table came to be. -/
inductive Origin where
  /-- A header of its own opened it. -/
  | header
  /-- A header named it on the way to another table. -/
  | passed
  /-- A dotted key named it. -/
  | dotted
  /-- Braces enclose it. -/
  | braces
  deriving DecidableEq, Repr

/-- A value of a document. -/
inductive Value where
  | string (content : String)
  | integer (n : Int)
  /-- A floating-point number as it was written. -/
  | float (spelling : String)
  | boolean (b : Bool)
  /-- A date, a time or both as they were written. -/
  | moment (spelling : String)
  | array (items : List Value)
  | table (origin : Origin) (entries : List (String × Value))
  /-- The tables that headers in double brackets opened, the last one first. -/
  | rows (last : List (String × Value)) (earlier : List (List (String × Value)))
  deriving Repr

/-- The entries of a table in the order in which they were written. -/
abbrev Entries := List (String × Value)

namespace Value

/-- The content of a string. -/
def string? : Value → Option String
  | string content => some content
  | _ => none

/-- The contents of an array of strings. -/
def strings? : Value → Option (List String)
  | array items => items.mapM string?
  | _ => none

/-- The entries of a value for fields of these names. The items of an array stand for the first
fields in order, and a date or time has none of the fields. -/
def fields? (names : List String) : Value → Option Entries
  | table _ entries => some entries
  | array items => some (names.zip items)
  | rows last earlier => some (names.zip ((last :: earlier).reverse.map (table .header)))
  | moment _ => some []
  | _ => none

end Value

namespace Entries

/-- What a field holds: its default if the field is absent, nothing if its value does not decode. -/
def field? {α : Type} (decode : Value → Option α) (name : String) (default : α)
    (entries : Entries) : Option α :=
  match entries.lookup name with
  | some value => decode value
  | none => some default

end Entries

end CapabilityRegistry.Toml
