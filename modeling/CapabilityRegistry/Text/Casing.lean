import CapabilityRegistry.Text.Casing.Table

/-!
# Case conversion

Full Unicode case mappings: a character may map to several, and a capital sigma at the end of a word
becomes the final sigma. On ASCII both agree with `Char.toLower` and `Char.toUpper`.
-/

namespace CapabilityRegistry.Text

open Casing

/-- Looks a character up in a list of expansions, then in a list of stretches. -/
def Casing.convert (expansions : List (Nat × List Nat)) (stretches : List Stretch) (c : Char) :
    List Char :=
  match expansions.find? (·.1 == c.toNat) with
  | some (_, image) => image.map Char.ofNat
  | none =>
    match stretches.findSome? (·.image? c.toNat) with
    | some image => [Char.ofNat image]
    | none => [c]

/-- The lower case of one character, taken by itself. -/
def lowerCharacter (c : Char) : List Char :=
  if c.toNat < 128 then [c.toLower] else convert lowerExpansions lowerStretches c

/-- The upper case of one character. -/
def upperCharacter (c : Char) : List Char :=
  if c.toNat < 128 then [c.toUpper] else convert upperExpansions upperStretches c

/-- A character that has case. -/
def isCased (c : Char) : Bool :=
  casedRanges.any fun (first, last) => first ≤ c.toNat && c.toNat ≤ last

/-- A character that does not part a letter from its word when casing is decided. -/
def isCaseIgnorable (c : Char) : Bool :=
  ignorableRanges.any fun (first, last) => first ≤ c.toNat && c.toNat ≤ last

/-- The first character that casing does not look through has case. -/
def startsCased (cs : List Char) : Bool :=
  (cs.find? (!isCaseIgnorable ·)).any isCased

/-- Lower case of `cs`, read after the characters `before`, nearest first. A capital sigma is final
when a cased character stands before it and none after it. -/
def lowerAfter (before : List Char) : List Char → List Char
  | [] => []
  | c :: cs =>
    let image :=
      if c = 'Σ' then
        if startsCased before && !startsCased cs then ['ς'] else ['σ']
      else lowerCharacter c
    image ++ lowerAfter (c :: before) cs

/-- The lower case of a text. -/
def lower (cs : List Char) : List Char :=
  lowerAfter [] cs

/-- The upper case of a text. -/
def upper (cs : List Char) : List Char :=
  cs.flatMap upperCharacter

/-- The lower case of a string. -/
def lowercase (s : String) : String :=
  String.ofList (lower s.toList)

/-- The upper case of a string. -/
def uppercase (s : String) : String :=
  String.ofList (upper s.toList)

end CapabilityRegistry.Text
