import CapabilityRegistry.Numeral
import CapabilityRegistry.Text.Pieces

/-!
# Values of constants

Constants are written as C expressions. Numbers lose their C suffix, a complement such as `(~0U)` is
computed for the width of its type, and everything else is kept as it is.
-/

namespace CapabilityRegistry.Constant

/-- A number in hexadecimal notation. -/
def isHexadecimal : List Char → Bool
  | '0' :: 'x' :: _ => true
  | '0' :: 'X' :: _ => true
  | _ => false

/-- Letters that end an integer literal. -/
def isIntegerSuffix (c : Char) : Bool :=
  c == 'U' || c == 'u' || c == 'L' || c == 'l'

/-- Letters that end a decimal literal. -/
def isDecimalSuffix (c : Char) : Bool :=
  c == 'F' || c == 'f' || isIntegerSuffix c

/-- Drops the suffix letters of a literal; `F` is a digit of a hexadecimal one. -/
def stripSuffix (cs : List Char) : List Char :=
  Text.dropEndWhile (if isHexadecimal cs then isIntegerSuffix else isDecimalSuffix) cs

/-- The operand of a complement `(~N)`. -/
def complementOperand? (cs : List Char) : Option (List Char) := do
  Text.stripEnd? ")" (← Text.stripStart? "(~" cs)

/-- The complement of a number in the width of a type; only two types have one. -/
def complement? (typeName : String) (n : Nat) : Option String :=
  if typeName = "uint32_t" then
    if n < 1 <<< 32 then some (toString (1 <<< 32 - 1 - n)) else none
  else if typeName = "uint64_t" then some (Numeral.hexadecimal (1 <<< 64 - 1 - n))
  else none

/-- Hexadecimal digits behind `0x`. -/
def isHexadecimalNumber : List Char → Bool
  | '0' :: 'x' :: digits =>
    !digits.isEmpty && digits.all fun c => (Numeral.digitValue? 16 c).isSome
  | _ => false

/-- The text reads as a number. -/
def isNumber (cs : List Char) : Bool :=
  isHexadecimalNumber cs || (Numeral.int64? 10 cs).isSome || Numeral.readsAsFloat cs

/-- The value of a constant of a type, as the outputs write it. -/
def clean (value typeName : String) : String :=
  let body := Text.trim value.toList
  match complementOperand? body with
  | some operand =>
    match Numeral.unsigned? 64 (stripSuffix (Text.trim operand)) with
    | some n => (complement? typeName n).getD value
    | none => value
  | none =>
    let literal := stripSuffix body
    if isNumber literal then String.ofList literal else value

end CapabilityRegistry.Constant
