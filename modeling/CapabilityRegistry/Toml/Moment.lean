import CapabilityRegistry.Numeral

/-!
# Dates and times

A date, a time of day, or a date with a time and perhaps its offset from universal time. Each field
has a fixed width and its range; the day has to be one of its month.
-/

namespace CapabilityRegistry.Toml.Moment

/-- A field of so many digits whose number lies in a range. -/
def field? (width low high : Nat) (cs : List Char) : Option (Nat × List Char) := do
  let digits := cs.take width
  let n ← Numeral.natural? 10 digits
  if digits.length = width ∧ low ≤ n ∧ n ≤ high then some (n, cs.drop width) else none

/-- What follows a character. -/
def mark? (mark : Char) : List Char → Option (List Char)
  | c :: cs => if c = mark then some cs else none
  | [] => none

/-- The year has a day more. -/
def isLeap (year : Nat) : Bool :=
  year % 4 == 0 && (year % 100 != 0 || year % 400 == 0)

/-- The number of days of a month. -/
def daysIn (year month : Nat) : Nat :=
  match month with
  | 2 => if isLeap year then 29 else 28
  | 4 | 6 | 9 | 11 => 30
  | _ => 31

/-- What follows a date. -/
def date? (cs : List Char) : Option (List Char) := do
  let (year, cs) ← field? 4 0 9999 cs
  let (month, cs) ← field? 2 1 12 (← mark? '-' cs)
  let (_, cs) ← field? 2 1 (daysIn year month) (← mark? '-' cs)
  return cs

/-- What follows a fraction of a second, if there is one. -/
def skipFraction : List Char → List Char
  | '.' :: c :: cs => if c.isDigit then cs.dropWhile Char.isDigit else '.' :: c :: cs
  | cs => cs

/-- What follows a time of day. A minute may have a leap second. -/
def time? (cs : List Char) : Option (List Char) := do
  let (_, cs) ← field? 2 0 23 cs
  let (_, cs) ← field? 2 0 59 (← mark? ':' cs)
  let (_, cs) ← field? 2 0 60 (← mark? ':' cs)
  return skipFraction cs

/-- What follows hours and minutes behind a sign. -/
def shift? (cs : List Char) : Option (List Char) := do
  let (_, cs) ← field? 2 0 23 cs
  let (_, cs) ← field? 2 0 59 (← mark? ':' cs)
  return cs

/-- What follows an offset from universal time, if there is one. -/
def skipOffset : List Char → List Char
  | 'Z' :: cs => cs
  | 'z' :: cs => cs
  | '+' :: cs => (shift? cs).getD ('+' :: cs)
  | '-' :: cs => (shift? cs).getD ('-' :: cs)
  | cs => cs

/-- What follows a time behind the mark that parts it from its date, if there is one. -/
def skipTime : List Char → List Char
  | c :: cs =>
    match time? cs with
    | some rest => if c = 'T' ∨ c = 't' ∨ c = ' ' then skipOffset rest else c :: cs
    | none => c :: cs
  | [] => []

/-- What follows a date, a time or both. -/
def skip? (cs : List Char) : Option (List Char) :=
  match date? cs with
  | some rest => some (skipTime rest)
  | none => time? cs

end CapabilityRegistry.Toml.Moment
