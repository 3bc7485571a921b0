import CapabilityRegistry.Proofs.Constant

/-!
# Integer literals

A literal with suffix letters and blanks around it is cleaned to the literal by itself in decimal notation and
behind `0x` (`clean_integer_iff`). Behind `0X` suffix letters are told from digits as behind `0x`, but what remains
does not read as a number, so that the value is kept as it is written (`not_bare_capital`).
-/

namespace CapabilityRegistry.Constant

/-- The digits behind `0x` and `0X`. -/
def hexadecimalDigits : List Char :=
  "0123456789abcdefABCDEF".toList

/-- Decimal digits, or hexadecimal ones behind their mark. -/
inductive IntegerLiteral : List Char → Prop where
  | decimal {digits : List Char} : digits ≠ [] → (∀ c ∈ digits, c.isDigit = true) → IntegerLiteral digits
  | hexadecimal {mark : Char} {digits : List Char} : mark ∈ ['x', 'X'] → digits ≠ [] →
      (∀ c ∈ digits, c ∈ hexadecimalDigits) → IntegerLiteral ('0' :: mark :: digits)

/-- An integer literal with suffix letters, between blanks. -/
structure IntegerText where
  literal : List Char
  suffix : List Char := []
  before : List Char := []
  after : List Char := []
  isLiteral : IntegerLiteral literal
  letters : ∀ c ∈ suffix, c ∈ ['U', 'u', 'L', 'l']
  blank : ∀ c ∈ before, Text.isBlank c = true
  blank' : ∀ c ∈ after, Text.isBlank c = true

namespace IntegerText

/-- The value that is written so. -/
def value (t : IntegerText) : String :=
  String.ofList (t.before ++ (t.literal ++ t.suffix) ++ t.after)

/-- The mark before the digits is a capital letter. -/
def IsCapital (t : IntegerText) : Prop :=
  ['0', 'X'] <+: t.literal

instance (t : IntegerText) : Decidable t.IsCapital :=
  inferInstanceAs (Decidable (_ <+: _))

end IntegerText

variable {cs digits suffix : List Char} {mark : Char}

/-! ## Characters of literals -/

/-- The hexadecimal digits are letters or digits, no suffix letters, and have values. -/
lemma hexadecimalDigit {c : Char} (digit : c ∈ hexadecimalDigits) :
    c.isAlphanum = true ∧ isIntegerSuffix c = false ∧ (Numeral.digitValue? 16 c).isSome = true := by
  have all : hexadecimalDigits.Forall fun c =>
      c.isAlphanum = true ∧ isIntegerSuffix c = false ∧ (Numeral.digitValue? 16 c).isSome = true := by decide
  exact List.forall_iff_forall_mem.1 all c digit

/-- The suffix letters of integers are among those of decimal numbers. -/
lemma isDecimalSuffix_of_isIntegerSuffix {c : Char} (letter : isIntegerSuffix c = true) : isDecimalSuffix c = true :=
  Bool.or_eq_true_iff.2 (.inr letter)

/-- The suffix letters of integers, one by one. -/
lemma isIntegerSuffix_iff {c : Char} : isIntegerSuffix c = true ↔ c ∈ ['U', 'u', 'L', 'l'] := by
  simp only [isIntegerSuffix, Bool.or_eq_true, beq_iff_eq, List.mem_cons, List.not_mem_nil, or_false, or_assoc]

/-- A literal has letters and digits only. -/
lemma IntegerLiteral.isAlphanum (literal : IntegerLiteral cs) : ∀ c ∈ cs, c.isAlphanum = true := by
  cases literal with
  | decimal _ digits => exact fun c mem => Numeral.isAlphanum_of_isDigit (digits c mem)
  | hexadecimal marks _ digits =>
    refine List.forall_mem_cons.2 ⟨rfl, List.forall_mem_cons.2 ⟨?_, fun c mem => ?_⟩⟩
    · obtain rfl | rfl := List.mem_pair.1 marks
      · rfl
      · rfl
    · exact (hexadecimalDigit (digits c mem)).1

/-! ## What remains without the suffix -/

/-- The suffix letters are no digits of the literal before them, whatever its notation. -/
lemma IntegerLiteral.stripSuffix_append (literal : IntegerLiteral cs)
    (letters : ∀ c ∈ suffix, isIntegerSuffix c = true) : stripSuffix (cs ++ suffix) = cs := by
  cases literal with
  | decimal _ digits =>
    exact stripSuffix_digits_append digits fun c mem => isDecimalSuffix_of_isIntegerSuffix (letters c mem)
  | @hexadecimal mark digits marks _ all =>
    have hexadecimal : isHexadecimal ('0' :: mark :: digits ++ suffix) = true :=
      isHexadecimal_iff.2 ⟨mark, digits ++ suffix, rfl, marks⟩
    have kept : ∀ c ∈ '0' :: mark :: digits, isIntegerSuffix c = false := by
      refine List.forall_mem_cons.2 ⟨rfl, List.forall_mem_cons.2 ⟨?_, fun c mem => ?_⟩⟩
      · obtain rfl | rfl := List.mem_pair.1 marks
        · rfl
        · rfl
      · exact (hexadecimalDigit (all c mem)).2.1
    rw [stripSuffix, if_pos hexadecimal, Text.dropEndWhile_append letters, Text.dropEndWhile_eq_self kept]

/-! ## What reads as a number -/

/-- Digits are read as a number. -/
lemma isNumber_of_digits (nonempty : digits ≠ []) (all : ∀ c ∈ digits, c.isDigit = true) :
    isNumber digits = true := by
  have unsigned : Numeral.dropSign digits = digits := by
    unfold Numeral.dropSign
    split
    next => cases all '+' List.mem_cons_self
    next => cases all '-' List.mem_cons_self
    next => rfl
  have fraction : Numeral.isDecimalFraction digits = true := by
    have behind : digits.dropWhile Char.isDigit = [] := List.dropWhile_eq_nil_iff.2 all
    have whole : digits.takeWhile Char.isDigit = digits := List.takeWhile_eq_self_iff.2 all
    simp only [Numeral.isDecimalFraction, behind, whole, Numeral.isExponent, Bool.and_true, Bool.not_eq_true',
      List.isEmpty_eq_false_iff]
    exact nonempty
  rw [isNumber, Numeral.readsAsFloat, unsigned, fraction]
  exact Bool.or_true _

/-- Hexadecimal digits behind the small mark are read as a number. -/
lemma isNumber_hexadecimal (nonempty : digits ≠ []) (all : ∀ c ∈ digits, c ∈ hexadecimalDigits) :
    isNumber ('0' :: 'x' :: digits) = true := by
  have number : isHexadecimalNumber ('0' :: 'x' :: digits) = true := by
    simp only [isHexadecimalNumber, Bool.and_eq_true, Bool.not_eq_true', List.isEmpty_eq_false_iff, List.all_eq_true]
    exact ⟨nonempty, fun c mem => (hexadecimalDigit (all c mem)).2.2⟩
  rw [isNumber, number]
  rfl

/-- Behind a capital mark nothing reads as a number, neither as an integer nor as a fraction. -/
lemma isNumber_capital (digits : List Char) : isNumber ('0' :: 'X' :: digits) = false := by
  have integer : Numeral.int64? 10 ('0' :: 'X' :: digits) = none := rfl
  have unsigned : Numeral.dropSign ('0' :: 'X' :: digits) = '0' :: 'X' :: digits := rfl
  have fraction : Numeral.isDecimalFraction ('0' :: 'X' :: digits) = false := rfl
  have special : Numeral.isSpecialFloat ('0' :: 'X' :: digits) = false := rfl
  have float : Numeral.readsAsFloat ('0' :: 'X' :: digits) = false := by
    rw [Numeral.readsAsFloat, unsigned, fraction, special]
    rfl
  rw [isNumber, integer, float]
  rfl

/-- A literal is read as a number unless its mark is a capital letter. -/
lemma IntegerLiteral.isNumber_iff (literal : IntegerLiteral cs) : isNumber cs = true ↔ ¬ ['0', 'X'] <+: cs := by
  cases literal with
  | decimal nonempty digits =>
    refine iff_of_true (isNumber_of_digits nonempty digits) fun capital => ?_
    cases digits 'X' (capital.subset (List.mem_cons_of_mem '0' List.mem_cons_self))
  | @hexadecimal mark digits marks nonempty all =>
    obtain rfl | rfl := List.mem_pair.1 marks
    · refine iff_of_true (isNumber_hexadecimal nonempty all) fun capital => ?_
      cases (List.cons_prefix_cons.1 (List.cons_prefix_cons.1 capital).2).1
    · rw [isNumber_capital]
      exact iff_of_false Bool.false_ne_true fun small => small ⟨digits, rfl⟩

/-! ## Cleaning -/

namespace IntegerText

variable {t : IntegerText}

/-- The suffix of a text has suffix letters only. -/
lemma letters' (t : IntegerText) : ∀ c ∈ t.suffix, isIntegerSuffix c = true :=
  fun c mem => isIntegerSuffix_iff.2 (t.letters c mem)

/-- Its literal and suffix have only characters that numbers may have. -/
lemma isNumberCharacter (t : IntegerText) : ∀ c ∈ t.literal ++ t.suffix, Numeral.IsNumberCharacter c := by
  have letters : ∀ c ∈ ['U', 'u', 'L', 'l'], c.isAlphanum = true := List.forall_iff_forall_mem.1 (by decide)
  rw [List.forall_mem_append]
  exact ⟨fun c mem => .inl (t.isLiteral.isAlphanum c mem), fun c mem => .inl (letters c (t.letters c mem))⟩

/-- Without the blanks around it there are the literal and the suffix. -/
lemma trim_value (t : IntegerText) : Text.trim t.value.toList = t.literal ++ t.suffix := by
  rw [value, String.toList_ofList, Text.trim_append_blank t.blank', Text.trim_blank_append t.blank]
  exact Text.trim_of_solid fun c mem => (t.isNumberCharacter c mem).isBlank

/-- The literal is what remains, unless its mark is a capital letter. -/
lemma clean_value (t : IntegerText) (typeName : String) :
    clean t.value typeName = if t.IsCapital then t.value else String.ofList t.literal := by
  have single : complementOperand? (t.literal ++ t.suffix) = none :=
    complementOperand?_of_isNumberCharacter t.isNumberCharacter
  have bare : stripSuffix (t.literal ++ t.suffix) = t.literal := t.isLiteral.stripSuffix_append t.letters'
  simp only [clean, trim_value, single, bare, t.isLiteral.isNumber_iff]
  exact ite_not ..

/-- Nothing is written but the literal exactly when it has neither a suffix nor blanks around it. -/
lemma value_eq_iff : t.value = String.ofList t.literal ↔ t.suffix = [] ∧ t.before = [] ∧ t.after = [] := by
  rw [value, String.ofList_inj]
  constructor
  · intro same
    have lengths := congrArg List.length same
    simp only [List.length_append] at lengths
    simp only [← List.length_eq_zero_iff]
    omega
  · rintro ⟨suffix, before, after⟩
    rw [suffix, before, after]
    simp

/-- An integer literal is cleaned of its suffix and of blanks for every type, unless its digits stand behind `0X`
and there is something to clean. -/
theorem clean_integer_iff (t : IntegerText) (typeName : String) :
    clean t.value typeName = (if t.IsCapital then t.value else String.ofList t.literal) ∧
      (clean t.value typeName = String.ofList t.literal ↔
        (t.IsCapital → t.suffix = [] ∧ t.before = [] ∧ t.after = [])) := by
  refine ⟨clean_value t typeName, ?_⟩
  rw [clean_value, ← value_eq_iff]
  split
  next capital => exact ⟨fun same _ => same, fun bare => bare capital⟩
  next small => exact iff_of_true rfl fun capital => (small capital).elim

/-- The largest byte with a suffix and blanks, behind a mark. -/
def largestByte (mark : Char) (marks : mark ∈ ['x', 'X']) : IntegerText where
  literal := ['0', mark, 'F', 'F']
  suffix := ['U', 'L']
  before := [' ']
  after := ['\n']
  isLiteral := .hexadecimal marks (List.cons_ne_nil _ _) (List.forall_iff_forall_mem.1 (by decide))
  letters := List.forall_iff_forall_mem.1 (by decide)
  blank := List.forall_iff_forall_mem.1 (by decide)
  blank' := List.forall_iff_forall_mem.1 (by decide)

example : clean (largestByte 'x' (by decide)).value "uint32_t" = "0xFF" := by decide

/-- The suffix of a literal behind `0X` is kept. -/
theorem not_bare_capital :
    (largestByte 'X' (by decide)).value = " 0XFFUL\n" ∧ clean " 0XFFUL\n" "uint32_t" = " 0XFFUL\n" ∧
      clean " 0XFFUL\n" "uint32_t" ≠ String.ofList (largestByte 'X' (by decide)).literal := by
  decide

end IntegerText

end CapabilityRegistry.Constant
