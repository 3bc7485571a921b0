import CapabilityRegistry.Text.Blank
import CapabilityRegistry.Text.Lines
import CapabilityRegistry.Text.Pieces
import Mathlib.Data.List.Basic
import Mathlib.Data.List.DropRight
import Mathlib.Tactic.Lemma

/-!
# Occurrences in texts

A text contains what it has as an infix (`contains_iff`). In particular it contains its pieces between
separators, trimmed or not (`contains_of_mem_splitAt`). Trimming takes blanks from both ends and nothing else
(`exists_trim`), so that no other character is lost (`count_trim`), a text without blanks stays as it is
(`trim_of_solid`), and the trimmed pieces of a trimmed text are those of the text (`map_trim_pieces_trim`). Lines
that stand together make an infix of the text of all lines (`unlines_infix`).
-/

namespace CapabilityRegistry.Text

/-- A pattern occurs in the texts that have it as an infix. -/
lemma occursIn_iff {pattern cs : List Char} : occursIn pattern cs = true ↔ pattern <:+: cs := by
  induction cs with
  | nil => rw [occursIn, List.isEmpty_iff, List.infix_nil]
  | cons c cs ih =>
    rw [occursIn, Bool.or_eq_true, ih, List.isPrefixOf_iff_prefix, List.infix_cons_iff]

/-- A string contains another one as an infix. -/
lemma contains_iff {s pattern : String} :
    contains s pattern = true ↔ pattern.toList <:+: s.toList :=
  occursIn_iff

/-- The first piece of a text is a prefix of it, every other one an infix. -/
lemma pieces_eq_cons (separator : Char) (cs : List Char) :
    ∃ piece rest, pieces separator cs = piece :: rest ∧ piece <+: cs ∧ ∀ p ∈ rest, p <:+: cs := by
  induction cs with
  | nil => exact ⟨[], [], rfl, List.prefix_rfl, nofun⟩
  | cons c cs ih =>
    obtain ⟨piece, rest, eq, start, within⟩ := ih
    rw [pieces, eq]
    split
    · refine ⟨[], piece :: rest, rfl, List.nil_prefix, ?_⟩
      intro p mem
      cases mem with
      | head => exact List.infix_cons start.isInfix
      | tail _ mem => exact List.infix_cons (within p mem)
    · refine ⟨c :: piece, rest, rfl, List.cons_prefix_cons.2 ⟨rfl, start⟩, ?_⟩
      exact fun p mem => List.infix_cons (within p mem)

/-- Every piece of a text is an infix of it. -/
lemma infix_of_mem_pieces {separator : Char} {cs p : List Char} (mem : p ∈ pieces separator cs) :
    p <:+: cs := by
  obtain ⟨piece, rest, eq, start, within⟩ := pieces_eq_cons separator cs
  rw [eq] at mem
  cases mem with
  | head => exact start.isInfix
  | tail _ mem => exact within p mem

/-- Trimming takes away from the ends only. -/
lemma trim_infix {cs : List Char} : trim cs <:+: cs := by
  have inner : trim cs <+: trimStart cs := by
    rw [← List.reverse_suffix, trim, dropEndWhile, List.reverse_reverse]
    exact List.dropWhile_suffix isBlank
  exact inner.isInfix.trans (List.dropWhile_suffix isBlank).isInfix

/-- A text contains its pieces, also when they are trimmed. -/
lemma contains_of_mem_splitAt {separator : Char} {s piece : String}
    (mem : piece ∈ splitAt separator s) : contains s (trimmed piece) = true := by
  obtain ⟨p, part, rfl⟩ := List.mem_map.1 mem
  rw [contains_iff, trimmed, String.toList_ofList, String.toList_ofList]
  exact trim_infix.trans (infix_of_mem_pieces part)

/-- What remains behind a start makes up the text together with it. -/
lemma stripStart?_eq_some_iff {start : String} {cs rest : List Char} :
    stripStart? start cs = some rest ↔ cs = start.toList ++ rest :=
  List.isPrefixOf?_eq_some_iff_append_eq.trans eq_comm

/-- What remains before an ending makes up the text together with it. -/
lemma stripEnd?_eq_some_iff {ending : String} {cs rest : List Char} :
    stripEnd? ending cs = some rest ↔ cs = rest ++ ending.toList :=
  List.isSuffixOf?_eq_some_iff_append_eq.trans eq_comm

/-! ## Runs of characters at the end -/

section runs
variable {p : Char → Bool} {cs after : List Char}

/-- A run at the end is dropped together with what is dropped before it. -/
lemma dropEndWhile_append (dropped : ∀ c ∈ after, p c = true) (cs : List Char) :
    dropEndWhile p (cs ++ after) = dropEndWhile p cs := by
  rw [dropEndWhile, List.reverse_append, List.dropWhile_append_of_pos]
  · rfl
  · exact fun c mem => dropped c (List.mem_reverse.1 mem)

/-- Nothing is dropped from a text without such characters. -/
lemma dropEndWhile_eq_self (kept : ∀ c ∈ cs, p c = false) : dropEndWhile p cs = cs := by
  refine List.rdropWhile_eq_self_iff.2 fun nonempty => ?_
  rw [kept _ (List.getLast_mem nonempty)]
  exact Bool.false_ne_true

end runs

/-! ## Trimming -/

section trimming
variable {pattern cs before after : List Char} {c : Char}

/-- A character that is not blank is in no blank text. -/
lemma not_mem_of_blank {part : List Char} (solid : isBlank c = false) (blank : ∀ c ∈ part, isBlank c = true) :
    c ∉ part := by
  intro mem
  cases (blank c mem).symm.trans solid

/-- Trimming takes blanks from both ends. -/
lemma exists_trim (cs : List Char) :
    ∃ before after, cs = before ++ trim cs ++ after ∧ (∀ c ∈ before, isBlank c = true) ∧
      ∀ c ∈ after, isBlank c = true := by
  refine ⟨cs.takeWhile isBlank, (trimStart cs).rtakeWhile isBlank, ?_, ?_, ?_⟩
  · have inner : trim cs ++ (trimStart cs).rtakeWhile isBlank = trimStart cs :=
      List.rdropWhile_append_rtakeWhile
    rw [List.append_assoc, inner]
    exact List.takeWhile_append_dropWhile.symm
  · exact fun c mem => List.mem_takeWhile_imp mem
  · exact fun c mem => List.mem_rtakeWhile_imp mem

/-- Blanks in front do not count when a text is trimmed. -/
lemma trim_blank_append (blank : ∀ c ∈ before, isBlank c = true) : trim (before ++ cs) = trim cs := by
  rw [trim, trimStart, List.dropWhile_append_of_pos blank]
  rfl

/-- Blanks behind do not count when a text is trimmed. -/
lemma trim_append_blank (blank : ∀ c ∈ after, isBlank c = true) : trim (cs ++ after) = trim cs := by
  rw [trim, trim, trimStart, trimStart, List.dropWhile_append]
  split
  next empty => rw [List.dropWhile_eq_nil_iff.2 blank, List.isEmpty_iff.1 empty]
  next => exact dropEndWhile_append blank _

/-- A trimmed text stays as it is. -/
@[simp]
lemma trim_trim (cs : List Char) : trim (trim cs) = trim cs := by
  obtain ⟨before, after, eq, blank, blank'⟩ := exists_trim cs
  calc trim (trim cs)
    _ = trim (before ++ trim cs ++ after) := by rw [trim_append_blank blank', trim_blank_append blank]
    _ = trim cs := by rw [← eq]

/-- Trimming leaves a text without blanks as it is. -/
lemma trim_of_solid (solid : ∀ c ∈ cs, isBlank c = false) : trim cs = cs := by
  have start : trimStart cs = cs := List.dropWhile_eq_self_iff.2 fun nonempty => by
    rw [solid _ (List.getElem_mem nonempty)]
    exact Bool.false_ne_true
  rw [trim, start, dropEndWhile_eq_self solid]

/-- Printable characters of ASCII are no blanks. -/
lemma isBlank_of_printable (lower : 0x20 < c.toNat) (upper : c.toNat < 0x7F) : isBlank c = false := by
  simp only [isBlank, Bool.or_eq_false_iff, Bool.and_eq_false_iff, beq_eq_false_iff_ne, decide_eq_false_iff_not]
  omega

/-- What holds of each of the 128 characters of ASCII. -/
lemma of_ascii {p : Char → Prop} (each : ∀ n < 128, p (Char.ofNat n)) (ascii : c.toNat < 128) : p c := by
  have holds := each c.toNat ascii
  rwa [Char.ofNat_toNat] at holds

/-- Letters and digits are in ASCII. -/
lemma toNat_of_isAlphanum (alphanum : c.isAlphanum = true) : 48 ≤ c.toNat ∧ c.toNat ≤ 122 := by
  obtain letter | digit := Bool.or_eq_true_iff.1 alphanum
  · obtain upper | lower := Bool.or_eq_true_iff.1 letter
    · obtain ⟨first, last⟩ := of_decide_eq_true upper
      have first : 65 ≤ c.toNat := UInt32.le_iff_toNat_le.1 first
      have last : c.toNat ≤ 90 := UInt32.le_iff_toNat_le.1 last
      omega
    · obtain ⟨first, last⟩ := Bool.and_eq_true_iff.1 lower
      have first : 97 ≤ c.toNat := UInt32.le_iff_toNat_le.1 (of_decide_eq_true first)
      have last : c.toNat ≤ 122 := UInt32.le_iff_toNat_le.1 (of_decide_eq_true last)
      omega
  · have digit := Char.isDigit_iff_toNat.1 digit
    have first : 48 ≤ c.toNat := digit.1
    have last : c.toNat ≤ 57 := digit.2
    omega

/-- Trimming loses no character but blanks. -/
lemma count_trim (solid : isBlank c = false) (cs : List Char) : (trim cs).count c = cs.count c := by
  obtain ⟨before, after, eq, blank, blank'⟩ := exists_trim cs
  have none : before.count c = 0 := List.count_eq_zero.2 (not_mem_of_blank solid blank)
  have none' : after.count c = 0 := List.count_eq_zero.2 (not_mem_of_blank solid blank')
  conv => rhs; rw [eq]
  rw [List.count_append, List.count_append, none, none', Nat.zero_add, Nat.add_zero]

/-- A pattern does not start among characters that are not in it. -/
lemma infix_of_infix_append (apart : ∀ c ∈ before, c ∉ pattern) (occurs : pattern <:+: before ++ cs) :
    pattern <:+: cs := by
  induction before with
  | nil => exact occurs
  | cons b before ih =>
    rw [List.cons_append, List.infix_cons_iff] at occurs
    obtain start | occurs := occurs
    · cases pattern with
      | nil => exact List.nil_infix
      | cons p pattern =>
        obtain rfl := (List.cons_prefix_cons.1 start).1
        exact (apart p List.mem_cons_self List.mem_cons_self).elim
    · exact ih (fun c mem => apart c (List.mem_cons_of_mem b mem)) occurs

/-- A pattern without blanks occurs in a text when it occurs in the trimmed text. -/
lemma infix_trim_iff (solid : ∀ c ∈ pattern, isBlank c = false) : pattern <:+: trim cs ↔ pattern <:+: cs := by
  constructor
  · exact fun occurs => occurs.trans trim_infix
  · intro occurs
    obtain ⟨before, after, eq, blank, blank'⟩ := exists_trim cs
    have apart {part : List Char} (blank : ∀ c ∈ part, isBlank c = true) : ∀ c ∈ part, c ∉ pattern :=
      fun c mem mem' => not_mem_of_blank (solid c mem') blank mem
    rw [eq, List.append_assoc] at occurs
    have ended := infix_of_infix_append (apart blank) occurs
    rw [← List.reverse_infix, List.reverse_append] at ended
    apply List.reverse_infix.1
    refine infix_of_infix_append (fun c mem mem' => ?_) ended
    exact apart blank' c (List.mem_reverse.1 mem) (List.mem_reverse.1 mem')

end trimming

/-! ## Pieces of trimmed texts -/

section pieces
variable {cs before after : List Char} {separator : Char}

/-- A text without separators is one piece. -/
lemma pieces_of_not_mem (single : separator ∉ cs) : pieces separator cs = [cs] := by
  induction cs with
  | nil => rfl
  | cons c cs ih =>
    rw [List.mem_cons, not_or] at single
    obtain ⟨differ, single⟩ := single
    rw [pieces, if_neg (Ne.symm differ), ih single]

/-- One piece is the whole text. -/
lemma eq_of_pieces_eq_singleton {piece : List Char} (single : pieces separator cs = [piece]) : cs = piece := by
  induction cs generalizing piece with
  | nil => exact List.singleton_inj.1 single
  | cons c cs ih =>
    obtain ⟨first, rest, eq, _⟩ := pieces_eq_cons separator cs
    rw [pieces, eq] at single
    split at single
    · cases single
    · cases single
      rw [ih eq]

/-- What has no separator is appended to the last piece. -/
lemma pieces_append (single : separator ∉ after) (cs : List Char) :
    ∃ front last, pieces separator cs = front ++ [last] ∧
      pieces separator (cs ++ after) = front ++ [last ++ after] := by
  induction cs with
  | nil => exact ⟨[], [], rfl, pieces_of_not_mem single⟩
  | cons c cs ih =>
    obtain ⟨front, last, eq, eq'⟩ := ih
    rw [List.cons_append, pieces, pieces, eq, eq']
    split
    · exact ⟨[] :: front, last, rfl, rfl⟩
    · cases front with
      | nil => exact ⟨[], c :: last, rfl, rfl⟩
      | cons piece front => exact ⟨(c :: piece) :: front, last, rfl, rfl⟩

/-- What has no separator is put before the first piece. -/
lemma pieces_of_append (single : separator ∉ before) (cs : List Char) :
    ∃ first rest, pieces separator cs = first :: rest ∧
      pieces separator (before ++ cs) = (before ++ first) :: rest := by
  induction before with
  | nil =>
    obtain ⟨first, rest, eq, _⟩ := pieces_eq_cons separator cs
    exact ⟨first, rest, eq, eq⟩
  | cons b before ih =>
    rw [List.mem_cons, not_or] at single
    obtain ⟨differ, single⟩ := single
    obtain ⟨first, rest, eq, eq'⟩ := ih single
    refine ⟨first, rest, eq, ?_⟩
    rw [List.cons_append, pieces, if_neg (Ne.symm differ), eq']
    rfl

/-- What stands before a separator is the first piece. -/
lemma pieces_of_separator (single : separator ∉ before) :
    pieces separator (before ++ separator :: cs) = before :: pieces separator cs := by
  obtain ⟨first, rest, eq, eq'⟩ := pieces_of_append single (separator :: cs)
  rw [pieces, if_pos rfl] at eq
  cases eq
  rw [eq', List.append_nil]

/-- The pieces of a trimmed text are those of the text, once they are trimmed themselves. -/
lemma map_trim_pieces_trim (solid : isBlank separator = false) (cs : List Char) :
    (pieces separator (trim cs)).map trim = (pieces separator cs).map trim := by
  obtain ⟨before, after, eq, blank, blank'⟩ := exists_trim cs
  obtain ⟨front, last, inner, longer⟩ := pieces_append (not_mem_of_blank solid blank') (trim cs)
  obtain ⟨first, rest, longer', whole⟩ := pieces_of_append (not_mem_of_blank solid blank) (trim cs ++ after)
  rw [← List.append_assoc, ← eq] at whole
  calc (pieces separator (trim cs)).map trim
    _ = (pieces separator (trim cs ++ after)).map trim := by
      rw [inner, longer, List.map_append, List.map_append, List.map_singleton, List.map_singleton,
        trim_append_blank blank']
    _ = (pieces separator cs).map trim := by
      rw [longer', whole, List.map_cons, List.map_cons, trim_blank_append blank]

end pieces

/-! ## Lines -/

/-- The text of lines behind each other is made of their texts. -/
lemma unlines_append {lines lines' : List String} :
    unlines (lines ++ lines') = unlines lines ++ unlines lines' := by
  rw [unlines, List.map_append, String.join_append]
  rfl

/-- Lines that stand together among others have their text within that of all. -/
lemma unlines_infix {lines lines' : List String} (part : lines <:+: lines') :
    (unlines lines).toList <:+: (unlines lines').toList := by
  obtain ⟨before, behind, rfl⟩ := part
  rw [unlines_append, unlines_append, String.toList_append, String.toList_append]
  exact List.infix_append _ _ _

end CapabilityRegistry.Text
