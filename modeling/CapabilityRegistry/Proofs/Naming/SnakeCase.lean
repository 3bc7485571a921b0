import CapabilityRegistry.Naming
import CapabilityRegistry.Proofs.Text
import Mathlib.Data.List.Basic
import Mathlib.Tactic.Lemma

/-!
# Characters of snake case

The steps of snake case move parts of a name and set underscores or drop them; what is no underscore is neither
lost nor repeated. So a name in snake case has the characters of the name in lower case (`bare_snakeCase`), and
it does not start with a digit (`startsWithDigit_snakeCase`).
-/

namespace CapabilityRegistry.Naming

variable {cs ds number : List Char} {inWord : Bool} {c : Char}

/-- A name without its underscores. -/
def bare (cs : List Char) : List Char :=
  cs.filter (· ≠ '_')

/-- Underscores are left out piece by piece. -/
@[simp]
lemma bare_append : bare (cs ++ ds) = bare cs ++ bare ds :=
  List.filter_append cs ds

/-- An underscore in front is left out. -/
@[simp]
lemma bare_underscore : bare ('_' :: cs) = bare cs :=
  rfl

/-- Underscores are left out character by character. -/
lemma bare_cons (c : Char) (cs : List Char) : bare (c :: cs) = bare [c] ++ bare cs :=
  List.filter_append [c] cs

/-- What two texts have in common without underscores they have behind any character. -/
lemma bare_cons_congr (same : bare cs = bare ds) : bare (c :: cs) = bare (c :: ds) := by
  rw [bare_cons, same, ← bare_cons]

/-! ## Steps -/

/-- Separating a dimension puts in underscores only. -/
lemma bare_separateDimension : bare (separateDimension cs) = bare cs := by
  induction cs using separateDimension.induct with
  | case1 c cs digit ih =>
    rw [separateDimension, if_pos digit, bare_underscore]
    exact bare_cons_congr (bare_cons_congr ih)
  | case2 c cs other ih =>
    rw [separateDimension, if_neg other]
    exact bare_cons_congr ih
  | case3 c cs apart ih =>
    rw [separateDimension]
    · exact bare_cons_congr ih
    · exact apart
  | case4 => rfl

/-- Separating capitals puts in underscores only. -/
lemma bare_separateCapital : bare (separateCapital cs) = bare cs := by
  induction cs using separateCapital.induct with
  | case1 c d cs parted ih =>
    rw [separateCapital, if_pos parted]
    exact bare_cons_congr ih
  | case2 c d cs joined ih =>
    rw [separateCapital, if_neg joined]
    exact bare_cons_congr ih
  | case3 cs short =>
    rw [separateCapital]
    exact short

/-- Separating the last capital of a run puts in underscores only. -/
lemma bare_separateLastCapital : bare (separateLastCapital cs) = bare cs := by
  induction cs using separateLastCapital.induct with
  | case1 c d e cs parted ih =>
    rw [separateLastCapital, if_pos parted]
    exact bare_cons_congr ih
  | case2 c d e cs joined ih =>
    rw [separateLastCapital, if_neg joined]
    exact bare_cons_congr ih
  | case3 cs short =>
    rw [separateLastCapital]
    exact short

/-- Joining a dimension takes out underscores only. -/
lemma bare_joinDimension : bare (joinDimension cs) = bare cs := by
  induction cs using joinDimension.induct with
  | case1 c cs digit ih =>
    rw [joinDimension, if_pos digit]
    exact bare_cons_congr (bare_cons_congr ih)
  | case2 c cs other ih =>
    rw [joinDimension, if_neg other]
    exact bare_cons_congr ih
  | case3 c cs apart ih =>
    rw [joinDimension]
    · exact bare_cons_congr ih
    · exact apart
  | case4 => rfl

/-- Joining an identifier takes out underscores only. -/
lemma bare_joinIdentifier : bare (joinIdentifier inWord cs) = bare cs := by
  induction inWord, cs using joinIdentifier.induct with
  | case1 cs ih =>
    rw [joinIdentifier, if_pos rfl]
    exact bare_cons_congr ih
  | case2 inWord cs start ih =>
    rw [joinIdentifier, if_neg start]
    exact bare_cons_congr (bare_cons_congr ih)
  | case3 inWord c cs apart ih =>
    rw [joinIdentifier]
    · exact bare_cons_congr ih
    · exact apart
  | case4 => rfl

/-- The word `bit` that is put before a number was behind it. -/
lemma bare_moveBitWidth : (bare (moveBitWidth number cs)).Perm (bare (number.reverse ++ cs)) := by
  induction number, cs using moveBitWidth.induct with
  | case1 number cs empty ih =>
    rw [moveBitWidth, if_pos empty, bare_underscore]
    rw [List.isEmpty_iff.1 empty]
    exact ih
  | case2 number cs held ih =>
    rw [moveBitWidth, if_neg held]
    -- the word passes the digits that are held, which stand before it in the name
    calc bare ("bit".toList ++ (number.reverse ++ '_' :: moveBitWidth [] cs))
      _ = "bit".toList ++ (bare number.reverse ++ bare (moveBitWidth [] cs)) := by
        rw [bare_append, bare_append, bare_underscore]
        rfl
      List.Perm _ (bare number.reverse ++ ("bit".toList ++ bare (moveBitWidth [] cs))) :=
        List.perm_append_comm_assoc _ _ _
      List.Perm _ (bare number.reverse ++ ("bit".toList ++ bare cs)) :=
        (ih.append_left _).append_left _
      _ = bare (number.reverse ++ '_' :: ("bit".toList ++ '_' :: cs)) := by
        rw [bare_append, bare_underscore, bare_append, bare_underscore]
        rfl
  | case3 number c cs apart digit ih =>
    rw [moveBitWidth, if_pos digit]
    · rwa [List.reverse_cons, List.append_assoc] at ih
    · exact apart
  | case4 number c cs apart other ih =>
    rw [moveBitWidth, if_neg other]
    · rw [bare_append, bare_append, bare_cons c (moveBitWidth [] cs), bare_cons c cs]
      exact (ih.append_left _).append_left _
    · exact apart
  | case5 number =>
    rw [moveBitWidth, List.append_nil]

/-- A number at the start and the word behind it change places. -/
lemma bare_moveLeadingNumber : (bare (moveLeadingNumber cs)).Perm (bare cs) := by
  unfold moveLeadingNumber
  split
  next rest behind =>
    dsimp only
    split
    next => exact .refl _
    next =>
      have parts : cs = cs.takeWhile Text.isDecimalDigit ++ '_' ::
          (rest.takeWhile isLetterAscii ++ rest.dropWhile isLetterAscii) := by
        rw [List.takeWhile_append_dropWhile, ← behind, List.takeWhile_append_dropWhile]
      conv => rhs; rw [parts]
      simp only [bare_append, bare_underscore]
      exact List.perm_append_comm_assoc _ _ _
  next => exact .refl _

/-! ## Lower case -/

/-- In ASCII small letters do not depend on what is around them. -/
lemma lowerAfter_of_ascii {before : List Char} (ascii : ∀ c ∈ cs, c.toNat < 128) :
    Text.lowerAfter before cs = cs.map Char.toLower := by
  induction cs generalizing before with
  | nil => rfl
  | cons c cs ih =>
    obtain ⟨first, others⟩ := List.forall_mem_cons.1 ascii
    have latin : c ≠ 'Σ' := by
      rintro rfl
      exact absurd first (by decide)
    rw [Text.lowerAfter, ih others, if_neg latin, Text.lowerCharacter, if_pos first]
    rfl

/-- Lower case of ASCII is taken character by character. -/
lemma lower_of_ascii (ascii : ∀ c ∈ cs, c.toNat < 128) : Text.lower cs = cs.map Char.toLower :=
  lowerAfter_of_ascii ascii

/-- No capital becomes an underscore. -/
lemma toLower_eq_underscore_iff (ascii : c.toNat < 128) : c.toLower = '_' ↔ c = '_' :=
  Text.of_ascii (p := fun c => c.toLower = '_' ↔ c = '_') (by decide +kernel) ascii

/-- Underscores may be left out before or after the letters are made small. -/
lemma bare_map_toLower (ascii : ∀ c ∈ cs, c.toNat < 128) :
    bare (cs.map Char.toLower) = (bare cs).map Char.toLower := by
  rw [bare, bare, List.filter_map]
  congr 1
  refine List.filter_congr fun c mem => ?_
  simp [toLower_eq_underscore_iff (ascii c mem)]

/-- Underscores apart, a text has no characters that another one with the same characters does not have. -/
lemma mem_of_bare (same : (bare ds).Perm (bare cs)) (mem : c ∈ ds) : c ∈ cs ∨ c = '_' := by
  by_cases underscore : c = '_'
  · exact .inr underscore
  · have kept : c ∈ bare ds := List.mem_filter.2 ⟨mem, decide_eq_true underscore⟩
    exact .inl (List.mem_filter.1 (same.mem_iff.1 kept)).1

/-! ## The whole conversion -/

/-- An underscore before a digit is one more underscore only. -/
lemma bare_secured : bare (if startsWithDigit cs then '_' :: cs else cs) = bare cs := by
  split
  next => exact bare_underscore
  next => rfl

/-- With an underscore before it no digit comes first. -/
lemma startsWithDigit_secured : startsWithDigit (if startsWithDigit cs then '_' :: cs else cs) = false := by
  split
  next => rfl
  next letter => exact Bool.eq_false_iff.2 letter

/-- The words of a name in lower case, before a number at the start is looked at. -/
def lowerWords (cs : List Char) : List Char :=
  moveBitWidth [] (joinIdentifier false (joinDimension (Text.lower (separateLastCapital (separateCapital
    (separateDimension cs))))))

/-- Up to their order and to underscores, the words have the letters of the name in small. -/
lemma bare_lowerWords (ascii : ∀ c ∈ cs, c.toNat < 128) :
    (bare (lowerWords cs)).Perm (bare (cs.map Char.toLower)) := by
  have same : bare (separateLastCapital (separateCapital (separateDimension cs))) = bare cs := by
    rw [bare_separateLastCapital, bare_separateCapital, bare_separateDimension]
  have ascii' : ∀ c ∈ separateLastCapital (separateCapital (separateDimension cs)), c.toNat < 128 := by
    intro c mem
    obtain mem | rfl := mem_of_bare (.of_eq same) mem
    · exact ascii c mem
    · decide
  refine bare_moveBitWidth.trans (.of_eq ?_)
  rw [List.reverse_nil, List.nil_append, bare_joinIdentifier, bare_joinDimension, lower_of_ascii ascii',
    bare_map_toLower ascii', same, bare_map_toLower ascii]

/-- Snake case has the characters of the name in lower case. -/
theorem bare_snakeCase (ascii : ∀ c ∈ cs, c.toNat < 128) :
    (bare (snakeCase cs)).Perm (bare (cs.map Char.toLower)) := by
  have moved : (bare (if startsWithDigit (lowerWords cs) then moveLeadingNumber (lowerWords cs)
      else lowerWords cs)).Perm (bare (lowerWords cs)) := by
    split
    next => exact bare_moveLeadingNumber
    next => exact .refl _
  exact (List.Perm.of_eq bare_secured).trans (moved.trans (bare_lowerWords ascii))

/-- Snake case does not start with a digit. -/
theorem startsWithDigit_snakeCase (cs : List Char) : startsWithDigit (snakeCase cs) = false :=
  startsWithDigit_secured

end CapabilityRegistry.Naming
