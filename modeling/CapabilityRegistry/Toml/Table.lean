import CapabilityRegistry.Toml.Value

/-!
# Building tables

The entries of a table while a document is read. A name is defined once: a header opens a table that
no header and no dotted key opened before, a dotted key adds only to tables that dotted keys made, and
tables in braces are complete.
-/

namespace CapabilityRegistry.Toml

namespace Entries

/-- Replaces the value of a name, or adds one behind the others. -/
def update (name : String) (change : Option Value → Option Value) : Entries → Option Entries
  | [] => (change none).map fun value => [(name, value)]
  | (other, held) :: rest =>
    if other = name then (change (some held)).map fun value => (name, value) :: rest
    else (update name change rest).map ((other, held) :: ·)

/-- Changes the table that the headers of these names lead to. Rows lead to their last one, and a
table that is missing comes to be on the way. -/
def within (path : List String) (change : Entries → Option Entries) (entries : Entries) :
    Option Entries :=
  match path with
  | [] => change entries
  | name :: path => entries.update name fun
    | none => (within path change []).map (.table .passed)
    | some (.table .braces _) => none
    | some (.table origin inner) => (within path change inner).map (.table origin)
    | some (.rows last earlier) => (within path change last).map (.rows · earlier)
    | some _ => none

/-- Opens a table for its header. -/
def openTable (name : String) (entries : Entries) : Option Entries :=
  entries.update name fun
    | none => some (.table .header [])
    | some (.table .passed inner) => some (.table .header inner)
    | some _ => none

/-- Opens a row for its header. -/
def openRow (name : String) (entries : Entries) : Option Entries :=
  entries.update name fun
    | none => some (.rows [] [])
    | some (.rows last earlier) => some (.rows [] (last :: earlier))
    | some _ => none

/-- Adds a value under a dotted key. The key may lead through tables that no header opened, but the
value is added only where `receives` holds: in the table it starts from and in those of dotted keys. -/
def put (receives : Bool) (key : List String) (value : Value) (entries : Entries) :
    Option Entries :=
  match key with
  | [] => none
  | [name] => entries.update name fun
    | none => if receives then some value else none
    | some _ => none
  | name :: key => entries.update name fun
    | none => (put true key value []).map (.table .dotted)
    | some (.table .dotted inner) => (put true key value inner).map (.table .dotted)
    | some (.table .passed inner) => (put false key value inner).map (.table .passed)
    | some (.rows last earlier) => (put false key value last).map (.rows · earlier)
    | some _ => none

end Entries

end CapabilityRegistry.Toml
