import CapabilityRegistry.Proofs.Numeral

/-!
# Grammar of integer literals

A literal is a decimal number with or without a sign, or a hexadecimal one behind `0x` or `0X` (`Literal`). All
literals of 64 bits are read as the integers that they denote, and apart from them only hexadecimal digits with a
sign behind their mark (`parseInt_literal_iff`), such as `0x-5` (`not_literal_signedHexadecimal`).
-/

namespace CapabilityRegistry.Numeral

/-- A digit of a base, a letter in either case, with its value. -/
structure IsDigit (base : Nat) (c : Char) (value : Nat) : Prop where
  below : value < base
  written : c.toLower = value.digitChar

/-- Digits of a base, at least one, with the number that they denote. A digit counts as many times as the power of the
base that belongs to its place. -/
inductive Denotes (base : Nat) : List Char → Nat → Prop where
  | digit {c value} : IsDigit base c value → Denotes base [c] value
  | cons {c value cs n} : IsDigit base c value → Denotes base cs n →
      Denotes base (c :: cs) (value * base ^ cs.length + n)

/-- Digits of a base without a sign, with the integer that they denote. -/
def DenotesUnsigned (base : Nat) (cs : List Char) (k : Int) : Prop :=
  ∃ n : Nat, Denotes base cs n ∧ (n : Int) = k

/-- Digits of a base behind a sign, with the integer that they denote. -/
inductive DenotesSigned (base : Nat) : List Char → Int → Prop where
  | plus {cs k} : DenotesUnsigned base cs k → DenotesSigned base ('+' :: cs) k
  | minus {cs k} : DenotesUnsigned base cs k → DenotesSigned base ('-' :: cs) (-k)

/-- An integer literal with the integer that it denotes. -/
inductive Literal : List Char → Int → Prop where
  | decimal {cs k} : DenotesUnsigned 10 cs k → Literal cs k
  | signed {cs k} : DenotesSigned 10 cs k → Literal cs k
  | hexadecimal {mark cs k} : mark ∈ ['x', 'X'] → DenotesUnsigned 16 cs k → Literal ('0' :: mark :: cs) k

/-- Hexadecimal digits with a sign behind their mark, which are no literal. -/
inductive SignedHexadecimal : List Char → Int → Prop where
  | mk {mark cs k} : mark ∈ ['x', 'X'] → DenotesSigned 16 cs k → SignedHexadecimal ('0' :: mark :: cs) k

/-- An integer of 64 bits with sign. -/
def IsInt64 (k : Int) : Prop :=
  -2 ^ 63 ≤ k ∧ k < 2 ^ 63

variable {base read n value : Nat} {cs : List Char} {c mark : Char} {k l : Int}

/-! ## Digits -/

/-- Up to sixteen, the digits of a base are letters and digits of ASCII. -/
lemma IsDigit.isAlphanum (digit : IsDigit base c value) (small : base ≤ 16) : c.isAlphanum = true := by
  have characters : ∀ value < 16, value.digitChar.isAlphanum = true := by decide
  apply isAlphanum_of_toLower
  rw [digit.written]
  exact characters value (Nat.lt_of_lt_of_le digit.below small)

/-- The hexadecimal digits, checked one after the other. -/
lemma digitValue?_hexadecimal_iff (alphanumeric : c.isAlphanum = true) (below : value < 16) :
    digitValue? 16 c = some value ↔ c.toLower = value.digitChar :=
  Text.of_ascii (p := fun c => ∀ value < 16, digitValue? 16 c = some value ↔ c.toLower = value.digitChar)
    (by decide +kernel) (Nat.lt_of_le_of_lt (Text.toNat_of_isAlphanum alphanumeric).2 (by decide)) value below

section digits
variable (small : base ≤ 16)
include small

/-- A base has the first digits of the hexadecimal ones. -/
lemma digitValue?_small_iff : digitValue? base c = some value ↔ digitValue? 16 c = some value ∧ value < base := by
  simp only [digitValue?, Option.filter_eq_some_iff, decide_eq_true_eq]
  constructor
  · rintro ⟨found, below⟩
    exact ⟨⟨found, Nat.lt_of_lt_of_le below small⟩, below⟩
  · rintro ⟨⟨found, _⟩, below⟩
    exact ⟨found, below⟩

/-- The value of a digit is the one that the grammar gives it. -/
lemma digitValue?_eq_some_iff : digitValue? base c = some value ↔ IsDigit base c value := by
  rw [digitValue?_small_iff small]
  constructor
  · rintro ⟨found, below⟩
    have alphanumeric := isAlphanum_of_digitValue? (Option.isSome_of_eq_some found)
    exact ⟨below, (digitValue?_hexadecimal_iff alphanumeric (Nat.lt_of_lt_of_le below small)).1 found⟩
  · intro digit
    have below := Nat.lt_of_lt_of_le digit.below small
    exact ⟨(digitValue?_hexadecimal_iff (digit.isAlphanum small) below).2 digit.written, digit.below⟩

/-- Digits are read as the number that they denote, behind what is already read. -/
lemma digits?_of_denotes (number : Denotes base cs n) :
    digits? base read cs = some (read * base ^ cs.length + n) := by
  induction number generalizing read with
  | digit digit =>
    rw [digits?, (digitValue?_eq_some_iff small).2 digit, List.length_singleton, Nat.pow_one]
    rfl
  | @cons c value cs n digit number ih =>
    rw [digits?, (digitValue?_eq_some_iff small).2 digit]
    calc digits? base (read * base + value) cs
      _ = some ((read * base + value) * base ^ cs.length + n) := ih
      _ = some (read * base ^ (cs.length + 1) + (value * base ^ cs.length + n)) := by
        rw [Nat.add_mul, Nat.mul_assoc, ← Nat.pow_succ', Nat.add_assoc]

/-- What is read as digits denotes a number. -/
lemma exists_denotes_of_digits? (found : digits? base read (c :: cs) = some n) : ∃ m, Denotes base (c :: cs) m := by
  induction cs generalizing c read with
  | nil =>
    obtain ⟨value, digit, _⟩ := Option.bind_eq_some_iff.1 found
    exact ⟨value, .digit ((digitValue?_eq_some_iff small).1 digit)⟩
  | cons d cs ih =>
    obtain ⟨value, digit, found⟩ := Option.bind_eq_some_iff.1 found
    obtain ⟨m, number⟩ := ih found
    exact ⟨_, .cons ((digitValue?_eq_some_iff small).1 digit) number⟩

/-- A number that is written so is read. -/
lemma natural?_of_denotes (number : Denotes base cs n) : natural? base cs = some n := by
  have found : digits? base 0 cs = some (0 * base ^ cs.length + n) := digits?_of_denotes small number
  rw [Nat.zero_mul, Nat.zero_add] at found
  cases number with
  | digit => exact found
  | cons => exact found

/-- Numbers without a sign are read exactly as the grammar has them. -/
lemma natural?_eq_some_iff : natural? base cs = some n ↔ Denotes base cs n := by
  refine ⟨fun found => ?_, natural?_of_denotes small⟩
  cases cs with
  | nil => cases found
  | cons c cs =>
    obtain ⟨m, number⟩ := exists_denotes_of_digits? small found
    cases found.symm.trans (natural?_of_denotes small number)
    exact number

/-- A number starts with no sign. -/
lemma not_denotesUnsigned_sign (sign : c.isAlphanum = false) : ¬ DenotesUnsigned base (c :: cs) k := by
  rintro ⟨n, number, _⟩
  have alphanumeric := isAlphanum_of_natural? (natural?_of_denotes small number) c List.mem_cons_self
  cases alphanumeric.symm.trans sign

/-- No number is written both with a sign and without. -/
lemma DenotesUnsigned.not_signed (number : DenotesUnsigned base cs k) : ¬ DenotesSigned base cs l := by
  intro signed
  cases signed with
  | plus => exact not_denotesUnsigned_sign small (by decide) number
  | minus => exact not_denotesUnsigned_sign small (by decide) number

/-! ## Integers -/

omit small in
/-- Behind a plus sign there is the number. -/
lemma denotesSigned_plus_iff : DenotesSigned base ('+' :: cs) k ↔ DenotesUnsigned base cs k := by
  refine ⟨fun signed => ?_, .plus⟩
  cases signed with
  | plus number => exact number

omit small in
/-- Behind a minus sign there is its negation. -/
lemma denotesSigned_minus_iff : DenotesSigned base ('-' :: cs) k ↔ DenotesUnsigned base cs (-k) := by
  constructor
  · intro signed
    cases signed with
    | minus number => rwa [Int.neg_neg]
  · intro number
    rw [← neg_neg k]
    exact .minus number

/-- Digits are read with a sign or without. -/
lemma integer?_eq_some_iff : integer? base cs = some k ↔ DenotesUnsigned base cs k ∨ DenotesSigned base cs k := by
  have unsigned {cs : List Char} {k : Int} :
      (natural? base cs).map Int.ofNat = some k ↔ DenotesUnsigned base cs k := by
    simp only [Option.map_eq_some_iff, natural?_eq_some_iff small]
    rfl
  have negative {cs : List Char} :
      (natural? base cs).map (fun n => -Int.ofNat n) = some k ↔ DenotesUnsigned base cs (-k) := by
    simp only [Option.map_eq_some_iff, natural?_eq_some_iff small]
    exact exists_congr fun n => and_congr_right fun _ => neg_eq_iff_eq_neg
  unfold integer?
  split
  next cs =>
    rw [unsigned, denotesSigned_plus_iff]
    exact (or_iff_right (not_denotesUnsigned_sign small (by decide))).symm
  next cs =>
    rw [negative, denotesSigned_minus_iff]
    exact (or_iff_right (not_denotesUnsigned_sign small (by decide))).symm
  next plain plain' =>
    rw [unsigned]
    refine (or_iff_left fun signed => ?_).symm
    cases signed with
    | plus => exact plain _ rfl
    | minus => exact plain' _ rfl

/-- Numbers of 64 bits are read with a sign or without, if they fit. -/
lemma int64?_eq_some_iff :
    int64? base cs = some k ↔ (DenotesUnsigned base cs k ∨ DenotesSigned base cs k) ∧ IsInt64 k := by
  rw [int64?, Option.filter_eq_some_iff, integer?_eq_some_iff small, fitsInt64_iff]
  rfl

end digits

/-! ## Literals -/

/-- Behind a mark only hexadecimal digits are a literal. -/
lemma literal_hexadecimal_iff (marks : mark ∈ ['x', 'X']) :
    Literal ('0' :: mark :: cs) k ↔ DenotesUnsigned 16 cs k := by
  refine ⟨fun literal => ?_, .hexadecimal marks⟩
  cases literal with
  | decimal number =>
    -- the mark is no decimal digit
    obtain ⟨n, number, _⟩ := number
    have unread : natural? 10 ('0' :: mark :: cs) = none := by
      obtain rfl | rfl := List.mem_pair.1 marks
      · rfl
      · rfl
    cases unread.symm.trans (natural?_of_denotes (by decide) number)
  | signed number => cases number
  | hexadecimal _ number => exact number

/-- Behind the mark there is a number with a sign. -/
lemma signedHexadecimal_iff (marks : mark ∈ ['x', 'X']) :
    SignedHexadecimal ('0' :: mark :: cs) k ↔ DenotesSigned 16 cs k := by
  refine ⟨fun hexadecimal => ?_, .mk marks⟩
  cases hexadecimal with
  | mk _ number => exact number

/-- No literal is a hexadecimal number with a sign behind its mark. -/
lemma Literal.not_signedHexadecimal (literal : Literal cs k) : ¬ SignedHexadecimal cs l := by
  rintro ⟨marks, signed⟩
  exact ((literal_hexadecimal_iff marks).1 literal).not_signed (by decide) signed

/-- Without a mark only decimal digits are read. -/
lemma literal_unmarked_iff (unmarked : ∀ mark ∈ ['x', 'X'], ∀ digits, cs ≠ '0' :: mark :: digits) :
    Literal cs k ∨ SignedHexadecimal cs k ↔ DenotesUnsigned 10 cs k ∨ DenotesSigned 10 cs k := by
  constructor
  · rintro (literal | ⟨marks, _⟩)
    · cases literal with
      | decimal number => exact .inl number
      | signed number => exact .inr number
      | hexadecimal marks _ => exact (unmarked _ marks _ rfl).elim
    · exact (unmarked _ marks _ rfl).elim
  · rintro (number | number)
    · exact .inl (.decimal number)
    · exact .inl (.signed number)

/-- Besides literals, hexadecimal numbers with a sign behind the mark are read, blanks around them aside. -/
lemma literal?_eq_some_iff :
    literal? cs = some k ↔ (Literal (Text.trim cs) k ∨ SignedHexadecimal (Text.trim cs) k) ∧ IsInt64 k := by
  unfold literal?
  split
  case h_1 digits trimmed | h_2 digits trimmed =>
    rw [trimmed, int64?_eq_some_iff (by decide), literal_hexadecimal_iff (by decide),
      signedHexadecimal_iff (by decide)]
  case h_3 unmarked unmarked' =>
    rw [int64?_eq_some_iff (by decide), literal_unmarked_iff fun mark marks digits => ?_]
    obtain rfl | rfl := List.mem_pair.1 marks
    · exact unmarked digits
    · exact unmarked' digits

/-- What is read between blanks is a literal, or hexadecimal digits with a sign, of 64 bits. So a text is read as the
literal that it is unless it has digits with a sign behind a hexadecimal mark. -/
theorem parseInt_literal_iff (text : String) :
    (∀ k, parseInt text = some k ↔
      (Literal (Text.trim text.toList) k ∨ SignedHexadecimal (Text.trim text.toList) k) ∧ IsInt64 k) ∧
    ((∀ k, parseInt text = some k ↔ Literal (Text.trim text.toList) k ∧ IsInt64 k) ↔
      ¬ ∃ k, SignedHexadecimal (Text.trim text.toList) k ∧ IsInt64 k) := by
  have reads (k : Int) : parseInt text = some k ↔
      (Literal (Text.trim text.toList) k ∨ SignedHexadecimal (Text.trim text.toList) k) ∧ IsInt64 k :=
    literal?_eq_some_iff
  refine ⟨reads, ?_, ?_⟩
  · rintro literals ⟨k, signed, fits⟩
    have literal := ((literals k).1 ((reads k).2 ⟨.inr signed, fits⟩)).1
    exact literal.not_signedHexadecimal signed
  · intro unsigned k
    rw [reads]
    constructor
    · rintro ⟨literal | signed, fits⟩
      · exact ⟨literal, fits⟩
      · exact (unsigned ⟨k, signed, fits⟩).elim
    · exact fun ⟨literal, fits⟩ => ⟨.inl literal, fits⟩

/-- A sign behind a hexadecimal mark is read, although no literal has it there. -/
theorem not_literal_signedHexadecimal :
    parseInt "0x-5" = some (-5) ∧ ∀ k, ¬ Literal (Text.trim "0x-5".toList) k := by
  have signed : SignedHexadecimal (Text.trim "0x-5".toList) (-5) :=
    .mk (by decide : 'x' ∈ ['x', 'X']) (.minus ⟨5, .digit ⟨by decide, by decide⟩, rfl⟩)
  exact ⟨by decide, fun k literal => literal.not_signedHexadecimal signed⟩

end CapabilityRegistry.Numeral
