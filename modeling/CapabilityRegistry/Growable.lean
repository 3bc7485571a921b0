import CapabilityRegistry.Distinct
import CapabilityRegistry.Registry
import CapabilityRegistry.Rules
import CapabilityRegistry.ValueRange

/-!
# Growable enums

Features and extensions add values to one enum. Each value is recorded with its owner; an entry that
is an alias takes the value of the name it stands for, if that is known by then.
-/

namespace CapabilityRegistry

/-- The owner of the values that the enum declares itself. -/
def baseVersionOwner : String := "VK_VERSION_1_0"

/-- Why an entry cannot extend the enum. -/
inductive EntryFault where
  | missingPosition
  | missingNumber
  | outOfRange
  deriving DecidableEq, Repr

/-- The wording of a fault. -/
def EntryFault.message : EntryFault → String
  | missingPosition => "feature entry needs extnumber and offset"
  | missingNumber => "extension has no number"
  | outOfRange => "enum value out of range"

/-- An entry that cannot extend the enum, with its owner. -/
structure InvalidEntry where
  enumerant : String
  owner : String
  fault : EntryFault
  deriving DecidableEq, Repr

/-- The values that one feature or extension adds, in ascending order, and their ranges. -/
structure GrowableOwner where
  owner : String
  values : List (String × Int)
  ranges : List ValueRange
  deriving DecidableEq, Repr

/-- The tracked enum. -/
structure GrowableEnum where
  name : String
  /-- The values that are no aliases, in the order in which they were found. -/
  added : List (String × Int)
  owners : List GrowableOwner
  deriving DecidableEq, Repr

/-- The owner of a name. -/
def GrowableEnum.owner? (g : GrowableEnum) (name : String) : Option GrowableOwner :=
  g.owners.find? (·.owner == name)

namespace Growable

/-- The integer, if it fits in 64 bits with sign. -/
def checked (n : Int) : Option Int :=
  if Numeral.fitsInt64 n then some n else none

/-- The value of an entry: each extension has a block of 1000 values above 1000000000. No step may
leave the range of 64 bits. -/
def extensionValue? (extnumber offset : Int) (negative : Bool) : Option Int := do
  let block ← checked (extnumber - 1)
  let start ← checked (block * 1000)
  let base ← checked (start + 1000000000)
  let value ← checked (base + offset)
  if negative then checked (-value) else return value

/-- A value that an owner adds under a name. -/
structure Addition where
  owner : String
  name : String
  value : Int
  isAlias : Bool
  deriving DecidableEq, Repr

/-- The values known by name; the first entry of a name counts. -/
abbrev Known := List (String × Int)

/-- The values that the enum declares itself as numbers. -/
def baseValues (d : EnumDecl) : List (String × Int) :=
  d.members.filterMap fun m => m.value.number?.map (m.name, ·)

/-- The value of an entry at a position, or why there is none. -/
def positioned (owner : String) (e : EnumExtension) (extnumber offset : Int) :
    Except InvalidEntry Addition :=
  match extensionValue? extnumber offset e.negative with
  | some value => .ok ⟨owner, e.name, value, e.aliasOf.isSome⟩
  | none => .error ⟨e.name, owner, .outOfRange⟩

/-- What an entry of a feature adds. -/
def ofFeatureEntry (owner : String) (e : EnumExtension) : Except InvalidEntry Addition :=
  match e.extnumber, e.offset with
  | some extnumber, some offset => positioned owner e extnumber offset
  | _, _ => .error ⟨e.name, owner, .missingPosition⟩

/-- What an entry of an extension adds. Without an offset it repeats the value of the name it stands
for; without either it adds nothing. -/
def ofExtensionEntry (known : Known) (ext : Extension) (e : EnumExtension) :
    Except InvalidEntry (Option Addition) :=
  match e.extnumber <|> ext.number, e.offset, e.aliasOf with
  | none, _, _ => .error ⟨e.name, ext.name, .missingNumber⟩
  | some extnumber, some offset, _ => some <$> positioned ext.name e extnumber offset
  | some _, none, some target =>
    .ok ((known.lookup target).map fun value => ⟨ext.name, e.name, value, true⟩)
  | some _, none, none => .ok none

/-- The name and value of an addition. -/
def Addition.pair (a : Addition) : String × Int :=
  (a.name, a.value)

/-- The entries of all features that extend an enum, with the features' names. -/
def featureEntries (reg : Registry) (enumName : String) : List (String × EnumExtension) :=
  reg.features.flatMap fun f =>
    (f.requires.enums.filter (·.enumName == enumName)).map (f.name, ·)

/-- The entries of all extensions that are not disabled, with the extensions. -/
def extensionEntries (reg : Registry) (enumName : String) : List (Extension × EnumExtension) :=
  (reg.extensions.filter (·.supported != "disabled")).flatMap fun x =>
    (x.requires.enums.filter (·.enumName == enumName)).map (x, ·)

/-- Adds what the entries of extensions add to the additions that have been found. -/
def addExtensionEntries (base : Known) (found : List Addition) :
    List (Extension × EnumExtension) → Except InvalidEntry (List Addition)
  | [] => .ok found
  | (ext, e) :: rest => do
    let addition? ← ofExtensionEntry (base ++ found.map Addition.pair) ext e
    addExtensionEntries base (found ++ addition?.toList) rest

/-- Everything that features and extensions add to an enum, in the order of the document. -/
def additions (reg : Registry) (d : EnumDecl) : Except InvalidEntry (List Addition) := do
  let found ← (featureEntries reg d.name).mapM fun (owner, e) => ofFeatureEntry owner e
  addExtensionEntries (baseValues d).reverse found (extensionEntries reg d.name)

/-- Ascending by value; equal values descend by name. -/
def orderValues (values : List (String × Int)) : List (String × Int) :=
  values.mergeSort fun a b => a.2 < b.2 || (a.2 == b.2 && b.1 ≤ a.1)

/-- The owner of these values, without repetitions and in order. -/
def owner (name : String) (values : List (String × Int)) : GrowableOwner :=
  let values := orderValues (distinct values)
  ⟨name, values, ValueRange.contiguous values⟩

/-- The owners of values, in the order in which they first add one. The base version comes first, and
an owner without values is left out. -/
def owners (values : List (String × String × Int)) : List GrowableOwner :=
  let names := distinct (baseVersionOwner :: values.map (·.1))
  let grouped := names.map fun name => (name, (values.filter (·.1 == name)).map (·.2))
  (grouped.filter (!·.2.isEmpty)).map fun (name, values) => owner name values

/-- The tracked enum of a registry, if it is declared. -/
def collect (reg : Registry) (rules : Rules) : Except InvalidEntry (Option GrowableEnum) := do
  match reg.enumDecl? rules.growableEnum with
  | none => return none
  | some d =>
    let found ← additions reg d
    let own := ((baseValues d).filter (·.2 ≠ 0)).map (baseVersionOwner, ·)
    return some {
      name := rules.growableEnum
      added := distinctOn (·.1) ((found.filter (!·.isAlias)).map Addition.pair)
      owners := owners (own ++ found.map fun a => (a.owner, a.pair)) }

end Growable

end CapabilityRegistry
