/-!
# Pieces of texts

Searching a text for another one, cutting it there, and splitting it at a separator.
-/

namespace CapabilityRegistry.Text

/-- The pieces of a text between separators; a text without the separator is one piece. -/
def pieces (separator : Char) : List Char → List (List Char)
  | [] => [[]]
  | c :: cs =>
    if c = separator then [] :: pieces separator cs
    else
      match pieces separator cs with
      | [] => [[c]]
      | piece :: rest => (c :: piece) :: rest

/-- The pieces of a string between separators. -/
def splitAt (separator : Char) (s : String) : List String :=
  (pieces separator s.toList).map String.ofList

/-- What follows the first occurrence of a pattern. -/
def afterFirst? (pattern : List Char) : List Char → Option (List Char)
  | [] => if pattern.isEmpty then some [] else none
  | c :: cs =>
    match pattern.isPrefixOf? (c :: cs) with
    | some rest => some rest
    | none => afterFirst? pattern cs

/-- The pattern occurs somewhere in the text. -/
def occursIn (pattern : List Char) : List Char → Bool
  | [] => pattern.isEmpty
  | c :: cs => pattern.isPrefixOf (c :: cs) || occursIn pattern cs

/-- The string `s` contains `pattern`. -/
def contains (s pattern : String) : Bool :=
  occursIn pattern.toList s.toList

/-- The string `s` starts with `start`. -/
def startsWith (s start : String) : Bool :=
  start.toList.isPrefixOf s.toList

/-- The string `s` ends with `ending`. -/
def endsWith (s ending : String) : Bool :=
  ending.toList.isSuffixOf s.toList

/-- What remains of a text after `start`, if it starts so. -/
def stripStart? (start : String) (cs : List Char) : Option (List Char) :=
  start.toList.isPrefixOf? cs

/-- What remains of a text before `ending`, if it ends so. -/
def stripEnd? (ending : String) (cs : List Char) : Option (List Char) :=
  ending.toList.isSuffixOf? cs

/-- Removes the occurrences of a pattern from left to right, skipping `skip` characters that belong
to an occurrence already found. -/
def removeFrom (pattern : List Char) (skip : Nat) : List Char → List Char
  | [] => []
  | c :: cs =>
    match skip with
    | k + 1 => removeFrom pattern k cs
    | 0 =>
      if !pattern.isEmpty && pattern.isPrefixOf (c :: cs) then
        removeFrom pattern (pattern.length - 1) cs
      else c :: removeFrom pattern 0 cs

/-- Removes every occurrence of a pattern, from left to right and without overlap. -/
def remove (pattern : String) (cs : List Char) : List Char :=
  removeFrom pattern.toList 0 cs

end CapabilityRegistry.Text
