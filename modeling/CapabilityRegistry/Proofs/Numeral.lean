import CapabilityRegistry.Numeral
import CapabilityRegistry.Proofs.Text
import Mathlib.Algebra.Ring.Int.Defs
import Mathlib.Algebra.Ring.Nat
import Mathlib.Tactic.Lemma

/-!
# Reading numerals

What is read as an integer fits in the width that it is read for (`fits_of_parseInt`). Decimal digits are read
as the number that they denote, if that fits (`unsigned?_of_digits`), so that a number that is written in
decimal is read back (`unsigned?_toDigits`). Only letters, digits, signs and points are in what is read as an
integer or a floating-point number (`isNumberCharacter_of_integer?`, `isNumberCharacter_of_readsAsFloat`).
-/

namespace CapabilityRegistry.Numeral

/-- A number passes for one of 64 bits where it is within their bounds. -/
lemma fitsInt64_iff {n : Int} : fitsInt64 n = true ↔ -2 ^ 63 ≤ n ∧ n < 2 ^ 63 := by
  rw [fitsInt64, Bool.and_eq_true, decide_eq_true_iff, decide_eq_true_iff]
  rfl

/-- What is read as a number of 64 bits fits in them. -/
lemma fits_of_int64? {base : Nat} {cs : List Char} {n : Int} (read : int64? base cs = some n) :
    fitsInt64 n = true :=
  (Option.filter_eq_some_iff.1 read).2

/-- A literal is read as an integer of 64 bits. -/
lemma fits_of_parseInt {text : String} {n : Int} (read : parseInt text = some n) : fitsInt64 n = true := by
  unfold parseInt literal? at read
  split at read
  · exact fits_of_int64? read
  · exact fits_of_int64? read
  · exact fits_of_int64? read

/-! ## Decimal digits -/

section digits
variable {c : Char} {cs : List Char} {read bits n : Nat}

/-- A decimal digit has its distance from zero for a value. -/
lemma digitValue?_of_isDigit (digit : c.isDigit = true) : digitValue? 10 c = some (c.toNat - '0'.toNat) := by
  have upper : c.toNat ≤ 57 := (Char.isDigit_iff_toNat.1 digit).2
  have below : c.toNat - '0'.toNat < 10 := by
    show c.toNat - 48 < 10
    omega
  rw [digitValue?, if_pos digit]
  exact Option.filter_eq_some_iff.2 ⟨rfl, decide_eq_true below⟩

/-- Decimal digits are read behind what has been read before. -/
lemma digits?_of_digits (digits : ∀ c ∈ cs, c.isDigit = true) :
    digits? 10 read cs = some (Nat.ofDigitChars 10 cs read) := by
  induction cs generalizing read with
  | nil => rfl
  | cons c cs ih =>
    obtain ⟨digit, digits⟩ := List.forall_mem_cons.1 digits
    rw [digits?, digitValue?_of_isDigit digit, Nat.ofDigitChars_cons, Nat.mul_comm 10 read]
    exact ih digits

/-- Digits are read as the number that they denote, unless it needs more bits. -/
lemma unsigned?_of_digits (nonempty : cs ≠ []) (digits : ∀ c ∈ cs, c.isDigit = true) :
    unsigned? bits cs = if Nat.ofDigitChars 10 cs 0 < 2 ^ bits then some (Nat.ofDigitChars 10 cs 0) else none := by
  have number : natural? 10 cs = some (Nat.ofDigitChars 10 cs 0) := by
    cases cs with
    | nil => exact (nonempty rfl).elim
    | cons c cs => exact digits?_of_digits digits
  have unsigned : unsigned? bits cs = (natural? 10 cs).filter (· < 1 <<< bits) := by
    unfold unsigned?
    split
    next rest =>
      -- no sign stands before the digits
      cases digits '+' List.mem_cons_self
    next => rfl
  rw [unsigned, number, Nat.one_shiftLeft, Option.filter_some]
  simp only [decide_eq_true_eq]

/-- Written numbers have digits only. -/
lemma isDigit_of_mem_toDigits (mem : c ∈ Nat.toDigits 10 n) : c.isDigit = true :=
  Nat.isDigit_of_mem_toDigits (by decide) (by decide) mem

/-- A character that is no digit is in no written number. -/
lemma not_mem_toDigits (other : c.isDigit = false) : c ∉ Nat.toDigits 10 n := by
  intro mem
  cases other.symm.trans (isDigit_of_mem_toDigits mem)

/-- A number that is written in decimal is read back, unless it needs more bits. -/
lemma unsigned?_toDigits : unsigned? bits (Nat.toDigits 10 n) = if n < 2 ^ bits then some n else none := by
  rw [unsigned?_of_digits Nat.toDigits_ne_nil fun c mem => isDigit_of_mem_toDigits mem,
    Nat.ofDigitChars_ten_toDigits]

end digits

/-- The digits of a number are those of its base. -/
lemma exists_digitChar_of_mem_toDigits {b n : Nat} {c : Char} (base : 1 < b) (mem : c ∈ Nat.toDigits b n) :
    ∃ k < b, c = k.digitChar := by
  induction n using Nat.strongRecOn with
  | ind n ih =>
    rw [Nat.toDigits_eq_if base] at mem
    split at mem
    next small => exact ⟨n, small, List.mem_singleton.1 mem⟩
    next large =>
      rw [List.mem_append, List.mem_singleton] at mem
      obtain front | last := mem
      · exact ih (n / b) (Nat.div_lt_self (by omega) base) front
      · exact ⟨n % b, Nat.mod_lt n (by omega), last⟩

/-! ## Characters of numbers -/

/-- A letter, a digit, a sign or a point of ASCII. -/
def IsNumberCharacter (c : Char) : Prop :=
  c.isAlphanum = true ∨ c ∈ ['+', '-', '.']

section characters
variable {base read bits : Nat} {cs : List Char} {c : Char} {n : Nat} {k : Int}

/-- A digit is a letter or digit. -/
lemma isAlphanum_of_isDigit (digit : c.isDigit = true) : c.isAlphanum = true :=
  Bool.or_eq_true_iff.2 (.inr digit)

/-- The digits of a written number may stand in numbers. -/
lemma isNumberCharacter_of_mem_toDigits (mem : c ∈ Nat.toDigits 10 n) : IsNumberCharacter c :=
  .inl (isAlphanum_of_isDigit (isDigit_of_mem_toDigits mem))

/-- A small letter is a letter or digit. -/
lemma isAlphanum_of_lower (lower : 'a' ≤ c ∧ c ≤ 'z') : c.isAlphanum = true := by
  have lower : c.isLower = true := Bool.and_eq_true_iff.2 ⟨decide_eq_true lower.1, decide_eq_true lower.2⟩
  exact Bool.or_eq_true_iff.2 (.inl (Bool.or_eq_true_iff.2 (.inr lower)))

/-- A capital letter is a letter or digit. -/
lemma isAlphanum_of_upper (upper : 'A' ≤ c ∧ c ≤ 'Z') : c.isAlphanum = true := by
  have upper : c.isUpper = true := decide_eq_true upper
  exact Bool.or_eq_true_iff.2 (.inl (Bool.or_eq_true_iff.2 (.inl upper)))

/-- A digit of any base is a letter or digit. -/
lemma isAlphanum_of_digitValue? (digit : (digitValue? base c).isSome = true) : c.isAlphanum = true := by
  obtain ⟨value, found⟩ := Option.isSome_iff_exists.1 digit
  have found := (Option.filter_eq_some_iff.1 found).1
  split at found
  next decimal => exact isAlphanum_of_isDigit decimal
  next =>
    split at found
    next lower => exact isAlphanum_of_lower lower
    next =>
      split at found
      next upper => exact isAlphanum_of_upper upper
      next => cases found

/-- What is read as digits has letters and digits only. -/
lemma isAlphanum_of_digits? (found : digits? base read cs = some n) : ∀ c ∈ cs, c.isAlphanum = true := by
  induction cs generalizing read with
  | nil => exact nofun
  | cons c cs ih =>
    obtain ⟨value, digit, found⟩ := Option.bind_eq_some_iff.1 found
    exact List.forall_mem_cons.2 ⟨isAlphanum_of_digitValue? (Option.isSome_of_eq_some digit), ih found⟩

/-- What is read as a number without a sign has letters and digits only. -/
lemma isAlphanum_of_natural? (found : natural? base cs = some n) : ∀ c ∈ cs, c.isAlphanum = true := by
  cases cs with
  | nil => exact nofun
  | cons c cs => exact isAlphanum_of_digits? found

/-- What is read as an integer has characters of numbers only. -/
lemma isNumberCharacter_of_integer? (found : integer? base cs = some k) : ∀ c ∈ cs, IsNumberCharacter c := by
  unfold integer? at found
  split at found
  all_goals obtain ⟨n, number, _⟩ := Option.map_eq_some_iff.1 found
  next => exact List.forall_mem_cons.2 ⟨.inr (by decide), fun c mem => .inl (isAlphanum_of_natural? number c mem)⟩
  next => exact List.forall_mem_cons.2 ⟨.inr (by decide), fun c mem => .inl (isAlphanum_of_natural? number c mem)⟩
  next => exact fun c mem => .inl (isAlphanum_of_natural? number c mem)

/-- Nothing but a sign is dropped. -/
lemma isNumberCharacter_of_dropSign (rest : ∀ c ∈ dropSign cs, IsNumberCharacter c) :
    ∀ c ∈ cs, IsNumberCharacter c := by
  unfold dropSign at rest
  split at rest
  next => exact List.forall_mem_cons.2 ⟨.inr (by decide), rest⟩
  next => exact List.forall_mem_cons.2 ⟨.inr (by decide), rest⟩
  next => exact rest

/-- What is read as an exponent has characters of numbers only. -/
lemma isNumberCharacter_of_isExponent (exponent : isExponent cs = true) : ∀ c ∈ cs, IsNumberCharacter c := by
  cases cs with
  | nil => exact nofun
  | cons c cs =>
    obtain ⟨exponent, digits⟩ := Bool.and_eq_true_iff.1 exponent
    obtain ⟨mark, _⟩ := Bool.and_eq_true_iff.1 exponent
    have letter : c.isAlphanum = true := by
      obtain mark | mark := Bool.or_eq_true_iff.1 mark
      all_goals
        rw [beq_iff_eq] at mark
        subst mark
        decide
    refine List.forall_mem_cons.2 ⟨.inl letter, isNumberCharacter_of_dropSign ?_⟩
    exact fun c mem => .inl (isAlphanum_of_isDigit (List.all_eq_true.1 digits c mem))

/-- The digits at the start of a text are taken from what may be in a number. -/
lemma isNumberCharacter_of_dropWhile (rest : ∀ c ∈ cs.dropWhile Char.isDigit, IsNumberCharacter c) :
    ∀ c ∈ cs, IsNumberCharacter c := by
  rw [← List.takeWhile_append_dropWhile (p := Char.isDigit) (l := cs), List.forall_mem_append]
  exact ⟨fun c mem => .inl (isAlphanum_of_isDigit (List.mem_takeWhile_imp mem)), rest⟩

/-- What is read as a decimal fraction has characters of numbers only. -/
lemma isNumberCharacter_of_isDecimalFraction (fraction : isDecimalFraction cs = true) :
    ∀ c ∈ cs, IsNumberCharacter c := by
  apply isNumberCharacter_of_dropWhile
  unfold isDecimalFraction at fraction
  split at fraction
  next rest behind =>
    rw [behind]
    have exponent := (Bool.and_eq_true_iff.1 fraction).2
    refine List.forall_mem_cons.2 ⟨.inr (by decide), isNumberCharacter_of_dropWhile ?_⟩
    exact isNumberCharacter_of_isExponent exponent
  next => exact isNumberCharacter_of_isExponent (Bool.and_eq_true_iff.1 fraction).2

/-- What is a letter once it is lower-cased is a letter. -/
lemma isAlphanum_of_toLower (letter : c.toLower.isAlphanum = true) : c.isAlphanum = true := by
  unfold Char.toLower at letter
  split at letter
  next upper => exact isAlphanum_of_upper upper
  next => exact letter

/-- The words for infinity and the like have letters only. -/
lemma isAlphanum_of_isSpecialFloat (special : isSpecialFloat cs = true) : ∀ c ∈ cs, c.isAlphanum = true := by
  obtain ⟨word, named, same⟩ := List.any_eq_true.1 special
  have letters : ∀ word ∈ ["inf", "infinity", "nan"], word.toList.Forall (·.isAlphanum = true) := by decide
  intro c mem
  refine isAlphanum_of_toLower (List.forall_iff_forall_mem.1 (letters word named) _ ?_)
  rw [← beq_iff_eq.1 same]
  exact List.mem_map_of_mem mem

/-- What is read as a floating number has characters of numbers only. -/
lemma isNumberCharacter_of_readsAsFloat (float : readsAsFloat cs = true) : ∀ c ∈ cs, IsNumberCharacter c := by
  apply isNumberCharacter_of_dropSign
  obtain fraction | special := Bool.or_eq_true_iff.1 float
  · exact isNumberCharacter_of_isDecimalFraction fraction
  · exact fun c mem => .inl (isAlphanum_of_isSpecialFloat special c mem)

/-- No blank is in a number. -/
lemma IsNumberCharacter.isBlank (number : IsNumberCharacter c) : Text.isBlank c = false := by
  obtain alphanum | sign := number
  · obtain ⟨lower, upper⟩ := Text.toNat_of_isAlphanum alphanum
    exact Text.isBlank_of_printable (by omega) (by omega)
  · have signs : ∀ c ∈ ['+', '-', '.'], Text.isBlank c = false :=
      List.forall_iff_forall_mem.1 (by decide)
    exact signs c sign

end characters

end CapabilityRegistry.Numeral
