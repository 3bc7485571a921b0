import CapabilityRegistry.Text.Blank

/-!
# Numerals

Integers written with an optional sign in a given base, bounded to the width that holds them, and
the spellings that read as a floating-point number.
-/

namespace CapabilityRegistry.Numeral

/-- The value of a digit, letters counting from ten in either case. -/
def digitValue? (base : Nat) (c : Char) : Option Nat :=
  let value? :=
    if c.isDigit then some (c.toNat - '0'.toNat)
    else if 'a' ≤ c ∧ c ≤ 'z' then some (c.toNat - 'a'.toNat + 10)
    else if 'A' ≤ c ∧ c ≤ 'Z' then some (c.toNat - 'A'.toNat + 10)
    else none
  value?.filter (· < base)

/-- Reads digits behind the number already read. -/
def digits? (base : Nat) (read : Nat) : List Char → Option Nat
  | [] => some read
  | c :: cs => do digits? base (read * base + (← digitValue? base c)) cs

/-- Reads a text of digits, at least one. -/
def natural? (base : Nat) : List Char → Option Nat
  | [] => none
  | c :: cs => digits? base 0 (c :: cs)

/-- Reads digits behind an optional sign. -/
def integer? (base : Nat) : List Char → Option Int
  | '+' :: cs => (natural? base cs).map Int.ofNat
  | '-' :: cs => (natural? base cs).map fun n => -Int.ofNat n
  | cs => (natural? base cs).map Int.ofNat

/-- The integer fits in 64 bits with sign. -/
def fitsInt64 (n : Int) : Bool :=
  -0x8000000000000000 ≤ n && n < 0x8000000000000000

/-- Reads an integer of 64 bits with sign. -/
def int64? (base : Nat) (cs : List Char) : Option Int :=
  (integer? base cs).filter fitsInt64

/-- Reads a decimal number of so many bits; a plus sign may stand before it. -/
def unsigned? (bits : Nat) (cs : List Char) : Option Nat :=
  let digits :=
    match cs with
    | '+' :: rest => rest
    | _ => cs
  (natural? 10 digits).filter (· < 1 <<< bits)

/-- Reads a C integer literal between blanks: decimal, or hexadecimal after `0x` or `0X`. -/
def literal? (cs : List Char) : Option Int :=
  match Text.trim cs with
  | '0' :: 'x' :: digits => int64? 16 digits
  | '0' :: 'X' :: digits => int64? 16 digits
  | digits => int64? 10 digits

/-- Reads a C integer literal between blanks. -/
def parseInt (text : String) : Option Int :=
  literal? text.toList

/-- Drops the sign before a number. -/
def dropSign : List Char → List Char
  | '+' :: cs => cs
  | '-' :: cs => cs
  | cs => cs

/-- An exponent mark with digits behind an optional sign, or nothing. -/
def isExponent : List Char → Bool
  | [] => true
  | c :: cs =>
    let digits := dropSign cs
    (c == 'e' || c == 'E') && !digits.isEmpty && digits.all Char.isDigit

/-- Digits with at most one point among them, at least one digit, then perhaps an exponent. -/
def isDecimalFraction (cs : List Char) : Bool :=
  let whole := cs.takeWhile Char.isDigit
  match cs.dropWhile Char.isDigit with
  | '.' :: rest =>
    let fraction := rest.takeWhile Char.isDigit
    !(whole.isEmpty && fraction.isEmpty) && isExponent (rest.dropWhile Char.isDigit)
  | rest => !whole.isEmpty && isExponent rest

/-- A spelling of infinity or of no number, in any case. -/
def isSpecialFloat (cs : List Char) : Bool :=
  ["inf", "infinity", "nan"].any fun word => cs.map Char.toLower == word.toList

/-- The text reads as a floating-point number. -/
def readsAsFloat (cs : List Char) : Bool :=
  let body := dropSign cs
  isDecimalFraction body || isSpecialFloat body

/-- The hexadecimal spelling with capital digits behind `0x`. -/
def hexadecimal (n : Nat) : String :=
  "0x" ++ String.ofList ((Nat.toDigits 16 n).map Char.toUpper)

end CapabilityRegistry.Numeral
