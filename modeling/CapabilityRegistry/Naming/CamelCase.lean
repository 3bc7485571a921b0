import CapabilityRegistry.Naming.SnakeCase

/-!
# Camel case

Underscores fold into the capital of the character behind them.
-/

namespace CapabilityRegistry.Naming

/-- Drops each underscore before a character that `folds` and puts that character in upper case. -/
def foldUnderscores (folds : Char → Bool) : List Char → List Char
  | '_' :: c :: cs =>
    if folds c then Text.upperCharacter c ++ foldUnderscores folds cs
    else '_' :: foldUnderscores folds (c :: cs)
  | c :: cs => c :: foldUnderscores folds cs
  | [] => []

/-- The text with its first character in lower case. -/
def lowerFirst : List Char → List Char
  | c :: cs => Text.lowerCharacter c ++ cs
  | [] => []

/-- The display name of a field: only an underscore before a lower case letter is folded, so that the
one of `_3d` stays. -/
def displayName (field : String) : String :=
  String.ofList (foldUnderscores isLowerAscii field.toList)

end CapabilityRegistry.Naming
