import CapabilityRegistry.Proofs.Numeral
import CapabilityRegistry.Proofs.Text
import CapabilityRegistry.Registry.Constant

/-!
# Clean values

What cleaning returns is the value itself, or it is plain: without blanks around it, no complement and without a
suffix (`clean_eq_self_or_isPlain`). A plain value stays as it is (`IsPlain.clean`), so that cleaning twice is
cleaning once (`clean_clean`). The complement of a number is computed in the width of its type, whichever suffix
the number has (`clean_complementText`).
-/

namespace CapabilityRegistry.Constant

open Numeral (IsNumberCharacter)

variable {cs after : List Char} {value typeName : String} {n : Nat}

/-- What reads as a number has nothing else in it than characters of numbers. -/
lemma isNumberCharacter_of_isNumber (number : isNumber cs = true) : ∀ c ∈ cs, IsNumberCharacter c := by
  unfold isNumber at number
  obtain integer | float := Bool.or_eq_true_iff.1 number
  · obtain hexadecimal | integer := Bool.or_eq_true_iff.1 integer
    · unfold isHexadecimalNumber at hexadecimal
      split at hexadecimal
      next digits =>
        have digit := List.all_eq_true.1 (Bool.and_eq_true_iff.1 hexadecimal).2
        refine List.forall_mem_cons.2 ⟨.inl rfl, List.forall_mem_cons.2 ⟨.inl rfl, fun c mem => ?_⟩⟩
        exact .inl (Numeral.isAlphanum_of_digitValue? (digit c mem))
      next => cases hexadecimal
    · obtain ⟨k, read⟩ := Option.isSome_iff_exists.1 integer
      exact Numeral.isNumberCharacter_of_integer? (Option.filter_eq_some_iff.1 read).1
  · exact Numeral.isNumberCharacter_of_readsAsFloat float

/-! ## Suffixes -/

/-- A hexadecimal text starts with a zero and a mark, small or capital. -/
lemma isHexadecimal_iff :
    isHexadecimal cs = true ↔ ∃ mark rest, cs = '0' :: mark :: rest ∧ mark ∈ ['x', 'X'] := by
  unfold isHexadecimal
  split
  next => simp
  next => simp
  next small capital =>
    simp only [Bool.false_eq_true, false_iff]
    rintro ⟨mark, rest, rfl, marks⟩
    obtain rfl | rfl := List.mem_pair.1 marks
    · exact small rest rfl
    · exact capital rest rfl

/-- Behind its first two characters a text is hexadecimal or not. -/
lemma isHexadecimal_append (apart : ∀ c ∈ after, c ∉ ['0', 'x', 'X']) :
    isHexadecimal (cs ++ after) = isHexadecimal cs := by
  rw [Bool.eq_iff_iff, isHexadecimal_iff, isHexadecimal_iff]
  constructor
  · rintro ⟨mark, rest, eq, marks⟩
    rcases cs with _ | ⟨c, _ | ⟨c', cs⟩⟩
    · obtain rfl : after = '0' :: mark :: rest := eq
      cases apart '0' List.mem_cons_self List.mem_cons_self
    · obtain rfl : after = mark :: rest := (List.cons.inj eq).2
      exact (apart mark List.mem_cons_self (List.mem_cons_of_mem '0' marks)).elim
    · simp only [List.cons_append, List.cons.injEq] at eq
      obtain ⟨rfl, rfl, _⟩ := eq
      exact ⟨c', cs, rfl, marks⟩
  · rintro ⟨mark, rest, rfl, marks⟩
    exact ⟨mark, rest ++ after, rfl, marks⟩

/-- The letters of suffixes, one by one. -/
lemma isDecimalSuffix_iff {c : Char} : isDecimalSuffix c = true ↔ c ∈ ['F', 'f', 'U', 'u', 'L', 'l'] := by
  simp only [isDecimalSuffix, isIntegerSuffix, Bool.or_eq_true, beq_iff_eq, List.mem_cons, List.not_mem_nil, or_false,
    or_assoc]

/-- No suffix takes away the start of a hexadecimal text. -/
lemma not_mem_of_isDecimalSuffix {c : Char} (letter : isDecimalSuffix c = true) : c ∉ ['0', 'x', 'X'] := by
  have marks : ∀ c ∈ ['0', 'x', 'X'], isDecimalSuffix c = false :=
    List.forall_iff_forall_mem.1 (by decide)
  intro mem
  cases letter.symm.trans (marks c mem)

/-- A suffix consists of letters of suffixes. -/
lemma exists_stripSuffix (cs : List Char) :
    ∃ suffix, cs = stripSuffix cs ++ suffix ∧ ∀ c ∈ suffix, isDecimalSuffix c = true := by
  refine ⟨_, List.rdropWhile_append_rtakeWhile.symm, fun c mem => ?_⟩
  have letter := List.mem_rtakeWhile_imp mem
  split at letter
  next => exact Bool.or_eq_true_iff.2 (.inr letter)
  next => exact letter

/-- There is no second suffix to strip. -/
@[simp]
lemma stripSuffix_stripSuffix (cs : List Char) : stripSuffix (stripSuffix cs) = stripSuffix cs := by
  obtain ⟨suffix, eq, letters⟩ := exists_stripSuffix cs
  -- which letters are dropped depends on the notation, and what remains has the same one
  have same : isHexadecimal (stripSuffix cs) = isHexadecimal cs := by
    conv => rhs; rw [eq]
    exact (isHexadecimal_append fun c mem => not_mem_of_isDecimalSuffix (letters c mem)).symm
  rw [stripSuffix, same, stripSuffix]
  exact List.rdropWhile_idempotent _ _

/-! ## Plain values -/

/-- There is nothing to clean: no blanks around it, no complement and no suffix. -/
structure IsPlain (cs : List Char) : Prop where
  trimmed : Text.trim cs = cs
  single : complementOperand? cs = none
  bare : stripSuffix cs = cs

/-- A plain text stays as it is. -/
lemma IsPlain.clean (plain : IsPlain cs) (typeName : String) :
    clean (String.ofList cs) typeName = String.ofList cs := by
  rw [Constant.clean, String.toList_ofList, plain.trimmed]
  simp only [plain.single, plain.bare, ite_self]

/-- Characters of numbers are no complement. -/
lemma complementOperand?_of_isNumberCharacter (characters : ∀ c ∈ cs, IsNumberCharacter c) :
    complementOperand? cs = none := by
  cases strip : Text.stripStart? "(~" cs with
  | none => rw [complementOperand?, strip]; rfl
  | some rest =>
    -- no parenthesis is in a number
    rw [Text.stripStart?_eq_some_iff.1 strip] at characters
    obtain letter | sign := characters '(' List.mem_cons_self
    · cases letter
    · exact absurd sign (by decide)

/-- Characters of numbers are plain, unless they end in a suffix. -/
lemma isPlain_of_isNumberCharacter (characters : ∀ c ∈ cs, IsNumberCharacter c) (bare : stripSuffix cs = cs) :
    IsPlain cs where
  trimmed := Text.trim_of_solid fun c mem => (characters c mem).isBlank
  single := complementOperand?_of_isNumberCharacter characters
  bare := bare

/-! ## Complements -/

/-- A digit is no letter of a suffix. -/
lemma isDecimalSuffix_of_isDigit {c : Char} (digit : c.isDigit = true) : isDecimalSuffix c = false := by
  rw [Bool.eq_false_iff, Ne, isDecimalSuffix_iff]
  have letters : ∀ c ∈ ['F', 'f', 'U', 'u', 'L', 'l'], c.isDigit = false :=
    List.forall_iff_forall_mem.1 (by decide)
  intro letter
  cases digit.symm.trans (letters c letter)

/-- Decimal digits are all that remains of a number with a suffix. -/
lemma stripSuffix_digits_append (digits : ∀ c ∈ cs, c.isDigit = true)
    (letters : ∀ c ∈ after, isDecimalSuffix c = true) : stripSuffix (cs ++ after) = cs := by
  have decimal : isHexadecimal cs = false := by
    rw [Bool.eq_false_iff, Ne, isHexadecimal_iff]
    rintro ⟨mark, rest, rfl, marks⟩
    have digit := digits mark (List.mem_cons_of_mem '0' List.mem_cons_self)
    obtain rfl | rfl := List.mem_pair.1 marks
    · cases digit
    · cases digit
  rw [stripSuffix, isHexadecimal_append fun c mem => not_mem_of_isDecimalSuffix (letters c mem), decimal]
  calc Text.dropEndWhile isDecimalSuffix (cs ++ after)
    _ = Text.dropEndWhile isDecimalSuffix cs := Text.dropEndWhile_append letters _
    _ = cs := Text.dropEndWhile_eq_self fun c mem => isDecimalSuffix_of_isDigit (digits c mem)

/-- Decimal digits are plain. -/
lemma isPlain_toDigits : IsPlain (Nat.toDigits 10 n) := by
  refine isPlain_of_isNumberCharacter (fun _ mem => Numeral.isNumberCharacter_of_mem_toDigits mem) ?_
  have bare : stripSuffix (Nat.toDigits 10 n ++ []) = Nat.toDigits 10 n :=
    stripSuffix_digits_append (fun _ mem => Numeral.isDigit_of_mem_toDigits mem) (by simp)
  rwa [List.append_nil] at bare

/-- A hexadecimal number has capital digits behind a small mark. -/
lemma toList_hexadecimal :
    (Numeral.hexadecimal n).toList = '0' :: 'x' :: (Nat.toDigits 16 n).map Char.toUpper := by
  simp only [Numeral.hexadecimal, String.toList_append, String.toList_ofList]
  rfl

/-- There is nothing to clean in a hexadecimal number. -/
lemma isPlain_hexadecimal : IsPlain (Numeral.hexadecimal n).toList := by
  have letters : ∀ k < 16, k.digitChar.toUpper.isAlphanum = true ∧ isIntegerSuffix k.digitChar.toUpper = false := by
    decide
  have digit : ∀ c ∈ (Nat.toDigits 16 n).map Char.toUpper, c.isAlphanum = true ∧ isIntegerSuffix c = false := by
    intro c mem
    obtain ⟨d, digit, rfl⟩ := List.mem_map.1 mem
    obtain ⟨k, below, rfl⟩ := Numeral.exists_digitChar_of_mem_toDigits (b := 16) (by decide) digit
    exact letters k below
  rw [toList_hexadecimal]
  refine isPlain_of_isNumberCharacter ?_ (Text.dropEndWhile_eq_self ?_)
  · refine List.forall_mem_cons.2 ⟨.inl rfl, List.forall_mem_cons.2 ⟨.inl rfl, fun c mem => ?_⟩⟩
    exact .inl (digit c mem).1
  · exact List.forall_mem_cons.2 ⟨rfl, List.forall_mem_cons.2 ⟨rfl, fun c mem => (digit c mem).2⟩⟩

/-- What a type has as a complement is plain. -/
lemma isPlain_complement? {result : String} (found : complement? typeName n = some result) :
    IsPlain result.toList := by
  unfold complement? at found
  split at found
  next =>
    split at found
    next =>
      cases found
      rw [Nat.toString_eq_ofList_toDigits, String.toList_ofList]
      exact isPlain_toDigits
    next => cases found
  next =>
    split at found
    next =>
      cases found
      exact isPlain_hexadecimal
    next => cases found

/-- A value is kept or becomes plain. -/
lemma clean_eq_self_or_isPlain (value typeName : String) :
    clean value typeName = value ∨ IsPlain (clean value typeName).toList := by
  fun_cases clean value typeName
  next n _ =>
    cases found : complement? typeName n with
    | none => exact .inl rfl
    | some result => exact .inr (isPlain_complement? found)
  next => exact .inl rfl
  next number =>
    rw [String.toList_ofList]
    exact .inr (isPlain_of_isNumberCharacter (isNumberCharacter_of_isNumber number) (stripSuffix_stripSuffix _))
  next => exact .inl rfl

/-- Cleaning twice is cleaning once. -/
lemma clean_clean (value typeName : String) : clean (clean value typeName) typeName = clean value typeName := by
  obtain kept | plain := clean_eq_self_or_isPlain value typeName
  · rw [kept, kept]
  · have cleaned := plain.clean typeName
    rwa [String.ofList_toList] at cleaned

/-- The complement of a number that is written with a suffix. -/
def complementText (n : Nat) (suffix : List Char) : String :=
  "(~" ++ toString n ++ String.ofList suffix ++ ")"

/-- Blanks and suffixes apart, the number of a complement is read. -/
lemma clean_complementText {suffix : List Char} (letters : ∀ c ∈ suffix, isDecimalSuffix c = true) (n : UInt64) :
    clean (complementText n.toNat suffix) typeName =
      (complement? typeName n.toNat).getD (complementText n.toNat suffix) := by
  have text : (complementText n.toNat suffix).toList =
      "(~".toList ++ (Nat.toDigits 10 n.toNat ++ suffix ++ ")".toList) := by
    simp only [complementText, Nat.toString_eq_ofList_toDigits, String.toList_append, String.toList_ofList,
      List.append_assoc]
  have solid : ∀ c ∈ Nat.toDigits 10 n.toNat ++ suffix, Text.isBlank c = false := by
    rw [List.forall_mem_append]
    refine ⟨fun c mem => (Numeral.isNumberCharacter_of_mem_toDigits mem).isBlank, fun c mem => ?_⟩
    have solid : ∀ c ∈ ['F', 'f', 'U', 'u', 'L', 'l'], Text.isBlank c = false :=
      List.forall_iff_forall_mem.1 (by decide)
    exact solid c (isDecimalSuffix_iff.1 (letters c mem))
  have trimmed : Text.trim (complementText n.toNat suffix).toList = (complementText n.toNat suffix).toList := by
    rw [text]
    apply Text.trim_of_solid
    simp only [List.forall_mem_append]
    have opened : ∀ c ∈ "(~".toList, Text.isBlank c = false := List.forall_iff_forall_mem.1 (by decide)
    have closed : ∀ c ∈ ")".toList, Text.isBlank c = false := List.forall_iff_forall_mem.1 (by decide)
    exact ⟨opened, List.forall_mem_append.1 solid, closed⟩
  have operand : complementOperand? (complementText n.toNat suffix).toList =
      some (Nat.toDigits 10 n.toNat ++ suffix) := by
    rw [complementOperand?, Text.stripStart?_eq_some_iff.2 text]
    exact Text.stripEnd?_eq_some_iff.2 rfl
  have read : Numeral.unsigned? 64 (Nat.toDigits 10 n.toNat) = some n.toNat := by
    rw [Numeral.unsigned?_toDigits, if_pos n.toNat_lt]
  have bare : stripSuffix (Nat.toDigits 10 n.toNat ++ suffix) = Nat.toDigits 10 n.toNat :=
    stripSuffix_digits_append (fun _ mem => Numeral.isDigit_of_mem_toDigits mem) letters
  simp only [clean, trimmed, operand, Text.trim_of_solid solid, bare, read]

/-- A complement is computed in the two widths that have one, provided that its number fits; it is kept in any
other type. A value that is clean stays as it is. -/
theorem clean_complement_idempotent :
    (∀ (n : UInt64) (suffix : List Char), (∀ c ∈ suffix, c ∈ ['F', 'f', 'U', 'u', 'L', 'l']) →
      clean (complementText n.toNat suffix) "uint32_t" =
          (if n.toNat < 2 ^ 32 then toString (2 ^ 32 - 1 - n.toNat) else complementText n.toNat suffix) ∧
        clean (complementText n.toNat suffix) "uint64_t" =
          "0x" ++ String.ofList ((Nat.toDigits 16 (2 ^ 64 - 1 - n.toNat)).map Char.toUpper) ∧
        ∀ typeName, typeName ≠ "uint32_t" → typeName ≠ "uint64_t" →
          clean (complementText n.toNat suffix) typeName = complementText n.toNat suffix) ∧
      ∀ value typeName, clean (clean value typeName) typeName = clean value typeName := by
  refine ⟨fun n suffix letters => ?_, clean_clean⟩
  have letters : ∀ c ∈ suffix, isDecimalSuffix c = true := fun c mem => isDecimalSuffix_iff.2 (letters c mem)
  refine ⟨?_, ?_, fun typeName other other' => ?_⟩
  · rw [clean_complementText letters, complement?, if_pos rfl, Nat.one_shiftLeft]
    split
    next => rfl
    next => rfl
  · rw [clean_complementText letters, complement?, if_neg (by decide), if_pos rfl, Nat.one_shiftLeft]
    rfl
  · rw [clean_complementText letters, complement?, if_neg other, if_neg other']
    rfl

/-- All bits set in 32 of them, and in 64. -/
theorem clean_complement_zero :
    clean (complementText 0 ['U']) "uint32_t" = "4294967295" ∧
      clean (complementText 0 ['U', 'L', 'L']) "uint64_t" = "0xFFFFFFFFFFFFFFFF" := by
  have narrow := (clean_complement_idempotent.1 0 ['U'] (List.forall_iff_forall_mem.1 (by decide))).1
  have wide := (clean_complement_idempotent.1 0 ['U', 'L', 'L'] (List.forall_iff_forall_mem.1 (by decide))).2.1
  exact ⟨narrow.trans (by decide), wide.trans (by decide)⟩

end CapabilityRegistry.Constant
