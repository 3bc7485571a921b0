import CapabilityRegistry.Proofs.Naming.SnakeCase
import Mathlib.Data.List.Chain

/-!
# Display names

Folding underscores stops at texts that have nothing more to fold (`IsFolded`). A display name is such a text
(`isFolded_foldUnderscores`), and it differs from the field only in underscores and in the case of letters
(`caseless_foldUnderscores`), so that display names are the normal forms of their fields (`displayName_normal`).
-/

namespace CapabilityRegistry.Naming

variable {folds : Char → Bool} {cs : List Char} {c d : Char}

/-- No underscore stands before a character that folds. -/
def IsFolded (folds : Char → Bool) (cs : List Char) : Prop :=
  cs.IsChain fun c d => c = '_' → folds d = false

/-- A name without its underscores and without the case of its letters. -/
def caseless (cs : List Char) : List Char :=
  (bare cs).map Char.toLower

/-- Case and underscores are left aside for each character by itself. -/
lemma caseless_cons (c : Char) (cs : List Char) : caseless (c :: cs) = caseless [c] ++ caseless cs := by
  rw [caseless, bare_cons, List.map_append]
  rfl

/-- Folding leaves a text as it is where nothing folds. -/
lemma foldUnderscores_of_isFolded (folded : IsFolded folds cs) : foldUnderscores folds cs = cs := by
  induction cs using foldUnderscores.induct folds with
  | case1 c cs fold ih =>
    have kept : folds c = false := (List.isChain_cons_cons.1 folded).1 rfl
    cases fold.symm.trans kept
  | case2 c cs kept ih =>
    rw [foldUnderscores, if_neg kept, ih (List.isChain_cons_cons.1 folded).2]
  | case3 c cs apart ih =>
    rw [foldUnderscores, ih (List.isChain_cons.1 folded).2]
    exact apart
  | case4 => rfl

/-! ## Letters -/

section letters
variable (lower : isLowerAscii c = true)
include lower

/-- A small letter of the alphabet is in ASCII. -/
lemma toNat_of_isLowerAscii : c.toNat < 128 := by
  have last : c.toNat ≤ 122 := UInt32.le_iff_toNat_le.1 (of_decide_eq_true (Bool.and_eq_true_iff.1 lower).2)
  omega

/-- A small letter of the alphabet has one capital. -/
lemma upperCharacter_of_isLowerAscii : Text.upperCharacter c = [c.toUpper] :=
  if_pos (toNat_of_isLowerAscii lower)

/-- A lower case letter becomes a capital of itself, which does not fold again. -/
lemma toUpper_of_isLowerAscii :
    c.toUpper ≠ '_' ∧ isLowerAscii c.toUpper = false ∧ caseless [c.toUpper] = caseless [c] :=
  Text.of_ascii (p := fun c => isLowerAscii c = true →
    c.toUpper ≠ '_' ∧ isLowerAscii c.toUpper = false ∧ caseless [c.toUpper] = caseless [c])
    (by decide +kernel) (toNat_of_isLowerAscii lower) lower

end letters

/-! ## Folding at lower case letters -/

/-- A lower case letter starts what is folded only where it starts the text. -/
lemma head?_of_head?_foldUnderscores (first : (foldUnderscores isLowerAscii cs).head? = some d)
    (lower : isLowerAscii d = true) : cs.head? = some d := by
  unfold foldUnderscores at first
  split at first
  next c cs =>
    split at first
    next fold =>
      rw [upperCharacter_of_isLowerAscii fold] at first
      cases first
      cases lower.symm.trans (toUpper_of_isLowerAscii fold).2.1
    next =>
      cases first
      cases lower
  next => exact first
  next => cases first

/-- What is folded has nothing more to fold. -/
lemma isFolded_foldUnderscores (cs : List Char) : IsFolded isLowerAscii (foldUnderscores isLowerAscii cs) := by
  induction cs using foldUnderscores.induct isLowerAscii with
  | case1 c cs fold ih =>
    rw [foldUnderscores, if_pos fold, upperCharacter_of_isLowerAscii fold]
    exact List.isChain_cons.2 ⟨fun d _ underscore => ((toUpper_of_isLowerAscii fold).1 underscore).elim, ih⟩
  | case2 c cs kept ih =>
    rw [foldUnderscores, if_neg kept]
    refine List.isChain_cons.2 ⟨fun d first _ => Bool.eq_false_iff.2 fun lower => ?_, ih⟩
    -- a letter behind the underscore would have been behind it in the text
    cases head?_of_head?_foldUnderscores first lower
    exact kept lower
  | case3 c cs apart ih =>
    rw [foldUnderscores]
    · refine List.isChain_cons.2 ⟨fun d first underscore => ?_, ih⟩
      cases cs with
      | nil => cases first
      | cons e cs => exact (apart e cs underscore rfl).elim
    · exact apart
  | case4 => exact .nil

/-- Folding keeps all characters but underscores, and the letters in either case. -/
lemma caseless_foldUnderscores (cs : List Char) : caseless (foldUnderscores isLowerAscii cs) = caseless cs := by
  induction cs using foldUnderscores.induct isLowerAscii with
  | case1 c cs fold ih =>
    rw [foldUnderscores, if_pos fold, upperCharacter_of_isLowerAscii fold]
    calc caseless (c.toUpper :: foldUnderscores isLowerAscii cs)
      _ = caseless [c] ++ caseless cs := by
        rw [caseless_cons, (toUpper_of_isLowerAscii fold).2.2, ih]
      _ = caseless ('_' :: c :: cs) := (caseless_cons c cs).symm
  | case2 c cs kept ih =>
    rw [foldUnderscores, if_neg kept]
    exact ih
  | case3 c cs apart ih =>
    rw [foldUnderscores]
    · rw [caseless_cons, ih, ← caseless_cons]
    · exact apart
  | case4 => rfl

/-- A display name has no underscore before a lower case letter and is its own display name, as are all texts
without such an underscore. It has the characters of the field, underscores and case apart. -/
theorem displayName_normal (field : String) :
    IsFolded isLowerAscii (displayName field).toList ∧
      displayName (displayName field) = displayName field ∧
      (displayName field = field ↔ IsFolded isLowerAscii field.toList) ∧
      caseless (displayName field).toList = caseless field.toList := by
  have name (field : String) : (displayName field).toList = foldUnderscores isLowerAscii field.toList :=
    String.toList_ofList
  have folded (field : String) : IsFolded isLowerAscii (displayName field).toList := by
    rw [name]
    exact isFolded_foldUnderscores field.toList
  have kept {field : String} (folded : IsFolded isLowerAscii field.toList) : displayName field = field := by
    rw [← String.toList_inj, name, foldUnderscores_of_isFolded folded]
  refine ⟨folded field, kept (folded field), ⟨fun same => same ▸ folded field, kept⟩, ?_⟩
  rw [name, caseless_foldUnderscores]

example : displayName "_3d__layout_Count_" = "_3d_Layout_Count_" := by decide

end CapabilityRegistry.Naming
