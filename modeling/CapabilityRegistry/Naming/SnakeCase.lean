import CapabilityRegistry.Text.Casing
import CapabilityRegistry.Text.DecimalDigit
import CapabilityRegistry.Text.WordCharacter

/-!
# Snake case

Camel case names become snake case by steps of replacement, one after the other. Each step reads
the name once from left to right. The steps keep a digit with the `D` behind it, and put the number
of a bit width behind the word `bit`.
-/

namespace CapabilityRegistry.Naming

open Text (isDecimalDigit isWordCharacter)

/-- An ASCII lower case letter. -/
def isLowerAscii (c : Char) : Bool := 'a' ≤ c && c ≤ 'z'

/-- An ASCII upper case letter. -/
def isUpperAscii (c : Char) : Bool := 'A' ≤ c && c ≤ 'Z'

/-- An ASCII letter. -/
def isLetterAscii (c : Char) : Bool := isLowerAscii c || isUpperAscii c

/-- Sets a digit and the `D` behind it apart: `2DView` becomes `_2D_View`. -/
def separateDimension : List Char → List Char
  | c :: 'D' :: cs =>
    if isDecimalDigit c then '_' :: c :: 'D' :: '_' :: separateDimension cs
    else c :: separateDimension ('D' :: cs)
  | c :: cs => c :: separateDimension cs
  | [] => []

/-- Parts a capital from the lower case letter or digit before it: `mapFlip` becomes `map_Flip`. -/
def separateCapital : List Char → List Char
  | c :: d :: cs =>
    if (isLowerAscii c || c.isDigit) && isUpperAscii d then c :: '_' :: separateCapital (d :: cs)
    else c :: separateCapital (d :: cs)
  | cs => cs

/-- Parts the last capital of a run from the run, where a lower case letter follows: `GPUName` becomes
`GPU_Name`. -/
def separateLastCapital : List Char → List Char
  | c :: d :: e :: cs =>
    if isUpperAscii c && isUpperAscii d && isLowerAscii e then
      c :: '_' :: separateLastCapital (d :: e :: cs)
    else c :: separateLastCapital (d :: e :: cs)
  | cs => cs

/-- Joins the word `d` to the number before it: `2_d_view` becomes `2d_view`. -/
def joinDimension : List Char → List Char
  | c :: '_' :: 'd' :: '_' :: cs =>
    if isDecimalDigit c then c :: 'd' :: '_' :: joinDimension cs
    else c :: joinDimension ('_' :: 'd' :: '_' :: cs)
  | c :: cs => c :: joinDimension cs
  | [] => []

/-- Joins `i_d_` to `id_` where a word starts; `inWord` says that a word character stands before. -/
def joinIdentifier (inWord : Bool) : List Char → List Char
  | 'i' :: '_' :: 'd' :: '_' :: cs =>
    if inWord then 'i' :: joinIdentifier true ('_' :: 'd' :: '_' :: cs)
    else 'i' :: 'd' :: '_' :: joinIdentifier true cs
  | c :: cs => c :: joinIdentifier (isWordCharacter c) cs
  | [] => []

/-- Puts a number behind the word `bit` that follows it: `16_bit_storage` becomes `bit16_storage`. The
digits of the number being read are held in reverse. -/
def moveBitWidth (number : List Char) : List Char → List Char
  | '_' :: 'b' :: 'i' :: 't' :: '_' :: cs =>
    if number.isEmpty then '_' :: moveBitWidth [] ('b' :: 'i' :: 't' :: '_' :: cs)
    else 'b' :: 'i' :: 't' :: (number.reverse ++ '_' :: moveBitWidth [] cs)
  | c :: cs =>
    if isDecimalDigit c then moveBitWidth (c :: number) cs
    else number.reverse ++ c :: moveBitWidth [] cs
  | [] => number.reverse

/-- The text starts with an ASCII digit. -/
def startsWithDigit : List Char → Bool
  | c :: _ => c.isDigit
  | [] => false

/-- Moves a number at the start behind the word after it: `4444_formats` becomes `formats_4444`. -/
def moveLeadingNumber (cs : List Char) : List Char :=
  let number := cs.takeWhile isDecimalDigit
  match cs.dropWhile isDecimalDigit with
  | '_' :: rest =>
    let word := rest.takeWhile isLetterAscii
    if number.isEmpty || word.isEmpty then cs
    else word ++ '_' :: (number ++ rest.dropWhile isLetterAscii)
  | _ => cs

/-- Snake case of a name that has lost its affixes. -/
def snakeCase (base : List Char) : List Char :=
  let cs := Text.lower (separateLastCapital (separateCapital (separateDimension base)))
  let cs := moveBitWidth [] (joinIdentifier false (joinDimension cs))
  let cs := if startsWithDigit cs then moveLeadingNumber cs else cs
  if startsWithDigit cs then '_' :: cs else cs

end CapabilityRegistry.Naming
