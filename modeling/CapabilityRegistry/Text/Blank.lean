/-!
# Blanks

The Unicode property White_Space, which decides what trimming removes and where words end.
-/

namespace CapabilityRegistry.Text

/-- A character with the property White_Space. -/
def isBlank (c : Char) : Bool :=
  let n := c.toNat
  (0x9 ≤ n && n ≤ 0xD) || n == 0x20 || n == 0x85 || n == 0xA0 || n == 0x1680
    || (0x2000 ≤ n && n ≤ 0x200A) || n == 0x2028 || n == 0x2029 || n == 0x202F || n == 0x205F
    || n == 0x3000

/-- Drops the blanks at the start. -/
def trimStart (cs : List Char) : List Char :=
  cs.dropWhile isBlank

/-- Drops from the end the longest run of characters of a class. -/
def dropEndWhile (p : Char → Bool) (cs : List Char) : List Char :=
  (cs.reverse.dropWhile p).reverse

/-- Drops the blanks at both ends. -/
def trim (cs : List Char) : List Char :=
  dropEndWhile isBlank (trimStart cs)

/-- Drops the blanks at both ends of a string. -/
def trimmed (s : String) : String :=
  String.ofList (trim s.toList)

/-- Some word between blanks is `word`. -/
def hasWord (word : List Char) (cs : List Char) : Bool :=
  (words [] cs).contains word
where
  /-- The words of a text, `current` being the reversed start of the first. -/
  words (current : List Char) : List Char → List (List Char)
    | [] => if current.isEmpty then [] else [current.reverse]
    | c :: cs =>
      if isBlank c then
        if current.isEmpty then words [] cs else current.reverse :: words [] cs
      else words (c :: current) cs

end CapabilityRegistry.Text
