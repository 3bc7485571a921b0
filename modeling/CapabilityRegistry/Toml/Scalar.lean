import CapabilityRegistry.Text.Pieces
import CapabilityRegistry.Toml.Moment
import CapabilityRegistry.Toml.Value

/-!
# Unquoted scalars

Numbers, truth values, dates and times. Single underscores may stand between digits. Integers have 64
bits with sign, and a floating-point number may not exceed the greatest one of double precision.
-/

namespace CapabilityRegistry.Toml

/-- A character of an unquoted scalar other than a date or time. -/
def isWordCharacter (c : Char) : Bool :=
  c.isAlphanum || c == '+' || c == '-' || c == '_' || c == '.'

/-- The digits of a base, without the underscores that part them. -/
def digitGroups? (base : Nat) (cs : List Char) : Option (List Char) :=
  let groups := Text.pieces '_' cs
  if groups.all fun g => !g.isEmpty && g.all fun c => (Numeral.digitValue? base c).isSome then
    some groups.flatten
  else none

/-- The digits of a decimal number, which starts with a zero only if it has one digit. -/
def wholeDigits? (cs : List Char) : Option (List Char) :=
  match cs with
  | ['0'] => some ['0']
  | '0' :: _ => none
  | _ => digitGroups? 10 cs

/-- An integer: decimal with a sign, or in base 16, 8 or 2 behind a mark. -/
def integer? (cs : List Char) : Option Int :=
  match cs with
  | '0' :: 'x' :: digits => (digitGroups? 16 digits).bind (Numeral.int64? 16)
  | '0' :: 'o' :: digits => (digitGroups? 8 digits).bind (Numeral.int64? 8)
  | '0' :: 'b' :: digits => (digitGroups? 2 digits).bind (Numeral.int64? 2)
  | '+' :: digits => (wholeDigits? digits).bind (Numeral.int64? 10)
  | '-' :: digits => (wholeDigits? digits).bind fun digits => Numeral.int64? 10 ('-' :: digits)
  | _ => (wholeDigits? cs).bind (Numeral.int64? 10)

/-- The exponent of a number, zero if none is written. -/
def exponent? : List Char → Option Int
  | [] => some 0
  | c :: cs => do
    let size ← Numeral.natural? 10 (← digitGroups? 10 (Numeral.dropSign cs))
    if c ≠ 'e' ∧ c ≠ 'E' then none
    else if cs.head? = some '-' then some (-size)
    else some size

/-- The least number that rounds to infinity in double precision. -/
def overflow : Nat :=
  1 <<< 1024 - 1 <<< 970

/-- The number `digits * 10 ^ scale` rounds to infinity. Numbers whose first digit stands too high or
too low are decided by its place. -/
def overflows (digits : List Char) (scale : Int) : Bool :=
  let significant := digits.dropWhile (· == '0')
  let place := significant.length + scale
  if significant.isEmpty || place < 308 then false
  else if 310 < place then true
  else
    let n := (Numeral.natural? 10 significant).getD 0
    overflow * Nat.pow 10 (-scale).toNat ≤ n * Nat.pow 10 scale.toNat

/-- The digits of a number and the power of ten they count, in a spelling without sign: whole
digits, then a fraction or an exponent or both. -/
def decimal? (cs : List Char) : Option (List Char × Int) := do
  let isWhole := fun (c : Char) => c.isDigit || c == '_'
  let whole ← wholeDigits? (cs.takeWhile isWhole)
  match cs.dropWhile isWhole with
  | [] => none
  | '.' :: rest =>
    let fraction ← digitGroups? 10 (rest.takeWhile isWhole)
    let scale ← exponent? (rest.dropWhile isWhole)
    return (whole ++ fraction, scale - fraction.length)
  | rest => return (whole, ← exponent? rest)

/-- The word spells a floating-point number. A negative one may exceed all finite ones. -/
def isFloat (cs : List Char) : Bool :=
  let body := Numeral.dropSign cs
  body == "inf".toList || body == "nan".toList ||
    match decimal? body with
    | some (digits, scale) => cs.head? == some '-' || !overflows digits scale
    | none => false

/-- The value of a word. -/
def word? (cs : List Char) : Option Value :=
  if cs = "true".toList then some (.boolean true)
  else if cs = "false".toList then some (.boolean false)
  else
    match integer? cs with
    | some n => some (.integer n)
    | none => if isFloat cs then some (.float (String.ofList cs)) else none

/-- An unquoted scalar and what follows it. -/
def scalar? (cs : List Char) : Option (Value × List Char) :=
  match Moment.skip? cs with
  | some rest => some (.moment (String.ofList (cs.take (cs.length - rest.length))), rest)
  | none => (word? (cs.takeWhile isWordCharacter)).map (·, cs.dropWhile isWordCharacter)

end CapabilityRegistry.Toml
