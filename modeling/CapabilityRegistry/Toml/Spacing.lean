/-!
# Blanks, lines and comments

What stands between the parts of a document. A line ends in a line feed or in a carriage return with
a line feed; a carriage return by itself is no blank.
-/

namespace CapabilityRegistry.Toml

/-- A blank inside a line. -/
def isBlank (c : Char) : Bool :=
  c == ' ' || c == '\t'

/-- A character that may stand in a comment: a tab, or none of the control characters. -/
def isPrintable (c : Char) : Bool :=
  c == '\t' || (32 ≤ c.toNat && c.toNat ≠ 127)

/-- What follows the blanks of a line. -/
def skipBlanks (cs : List Char) : List Char :=
  cs.dropWhile isBlank

/-- What follows the end of a line. -/
def lineEnd? : List Char → Option (List Char)
  | '\n' :: cs => some cs
  | '\r' :: '\n' :: cs => some cs
  | _ => none

/-- What follows a comment, which ends before the first character that may not stand in it. -/
def skipComment : List Char → List Char
  | '#' :: cs => cs.dropWhile isPrintable
  | cs => cs

/-- What follows the end of a statement: blanks and a comment, then the end of the line or of the
document. -/
def statementEnd? (cs : List Char) : Option (List Char) :=
  match skipComment (skipBlanks cs) with
  | [] => some []
  | rest => lineEnd? rest

/-- What follows blanks and line ends. -/
def skipLines : List Char → List Char
  | '\n' :: cs => skipLines cs
  | '\r' :: '\n' :: cs => skipLines cs
  | c :: cs => if isBlank c then skipLines cs else c :: cs
  | [] => []

/-- What follows blanks, line ends and comments that end with their line. A comment is open while
`inside` holds. -/
def skipSpacing (inside : Bool) : List Char → List Char
  | '\n' :: cs => skipSpacing false cs
  | '\r' :: '\n' :: cs => skipSpacing false cs
  | c :: cs =>
    if inside then (if isPrintable c then skipSpacing true cs else c :: cs)
    else if c = '#' then skipSpacing true cs
    else if isBlank c then skipSpacing false cs
    else c :: cs
  | [] => []

/-- Skipping lines adds nothing to the text. -/
theorem length_skipLines_le (cs : List Char) : (skipLines cs).length ≤ cs.length := by
  fun_induction skipLines cs with
  | case1 cs ih => exact Nat.le_succ_of_le ih
  | case2 cs ih => exact Nat.le_succ_of_le (Nat.le_succ_of_le ih)
  | case3 c cs _ _ _ ih => exact Nat.le_succ_of_le ih
  | case4 => exact Nat.le_refl _
  | case5 => exact Nat.le_refl _

end CapabilityRegistry.Toml
