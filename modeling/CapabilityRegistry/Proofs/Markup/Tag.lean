import CapabilityRegistry.Markup.Printer
import CapabilityRegistry.Markup.Tag
import CapabilityRegistry.Proofs.Markup.Entity
import Mathlib.Data.List.Nodup

/-!
# Written tags

A start tag is written as its name and its attributes in double quotes. Where names and keys are plain,
its end is found behind the last attribute (`Passes.startTag`), and the attributes are read back from it
(`attributes_startTag`).
-/

namespace CapabilityRegistry.Markup

/-- A character that neither ends a name nor means anything at its start or end. -/
def isPlain (c : Char) : Bool :=
  !isSpace c && !(['<', '>', '/', '=', '!', '?', '"', '\''].contains c)

/-- A name that can be written as it is. -/
structure PlainName (name : String) : Prop where
  nonempty : name ≠ ""
  plain : ∀ c ∈ name.toList, isPlain c = true

instance : DecidablePred PlainName := fun name =>
  decidable_of_iff (name ≠ "" ∧ name.toList.all isPlain = true)
    ⟨fun h => ⟨h.1, List.all_eq_true.1 h.2⟩, fun h => ⟨h.nonempty, List.all_eq_true.2 h.plain⟩⟩

/-- The content of the start tag of an element. -/
def startTag (name : String) (attributes : List (String × String)) : List Char :=
  name.toList ++ attributes.flatMap printAttribute

/-! ## Plain characters -/

/-- A plain character is no space. -/
lemma not_isSpace_of_plain {c : Char} (plain : isPlain c = true) : isSpace c = false := by
  unfold isPlain at plain
  exact Bool.not_eq_true' _ ▸ (Bool.and_eq_true_iff.1 plain).1

/-- A plain character has no meaning in markup. -/
lemma ne_of_plain {c d : Char} (plain : isPlain c = true)
    (mem : d ∈ ['<', '>', '/', '=', '!', '?', '"', '\'']) : c ≠ d := by
  rintro rfl
  unfold isPlain at plain
  rw [List.contains_iff_mem.2 mem] at plain
  exact Bool.false_ne_true ((Bool.and_false _).symm.trans plain)

/-- A plain character may stand in a key. -/
lemma isKeyCharacter_of_plain {c : Char} (plain : isPlain c = true) : Tag.isKeyCharacter c = true := by
  have sign : c ≠ '=' := ne_of_plain plain (by decide)
  rw [Tag.isKeyCharacter, not_isSpace_of_plain plain, bne_iff_ne.2 sign]
  rfl

/-! ## The end of a tag -/

/-- Characters that leave a tag open, and all quotes in it closed. -/
def Passes (cs : List Char) : Prop :=
  ∀ read rest, Token.cutTag none read (cs ++ rest) = Token.cutTag none (cs.reverse ++ read) rest

namespace Passes

/-- There is nothing to stop at in an empty text. -/
lemma nil : Passes [] :=
  fun _ _ => rfl

/-- Texts behind each other are passed one after the other. -/
lemma append {cs ds : List Char} (h : Passes cs) (h' : Passes ds) : Passes (cs ++ ds) := by
  intro read rest
  rw [List.append_assoc, h, h', List.reverse_append, List.append_assoc]

/-- Any number of texts are passed one after the other. -/
lemma flatMap {α : Type} {f : α → List Char} {l : List α} (each : ∀ a ∈ l, Passes (f a)) :
    Passes (l.flatMap f) := by
  induction l with
  | nil => exact nil
  | cons a l ih =>
    obtain ⟨head, tail⟩ := List.forall_mem_cons.1 each
    exact head.append (ih tail)

/-- A character is passed that neither ends a tag nor starts a value. -/
lemma character {c : Char} (stop : c ≠ '>') (double : c ≠ '"') (single : c ≠ '\'') : Passes [c] := by
  intro read rest
  show Token.cutTag none read (c :: rest) = Token.cutTag none (c :: read) rest
  rw [Token.cutTag, if_neg stop, if_neg (not_or_intro double single)]

/-- Plain characters are passed. -/
lemma plain {cs : List Char} (plain : ∀ c ∈ cs, isPlain c = true) : Passes cs := by
  induction cs with
  | nil => exact nil
  | cons c cs ih =>
    obtain ⟨head, tail⟩ := List.forall_mem_cons.1 plain
    have one : Passes [c] :=
      character (ne_of_plain head (by decide)) (ne_of_plain head (by decide)) (ne_of_plain head (by decide))
    exact one.append (ih tail)

/-- Inside quotes nothing but the quote counts. -/
lemma quoted {cs : List Char} (inside : '"' ∉ cs) : Passes ('"' :: cs ++ ['"']) := by
  have through : ∀ read rest, Token.cutTag (some '"') read (cs ++ '"' :: rest) =
      Token.cutTag none ('"' :: (cs.reverse ++ read)) rest := by
    induction cs with
    | nil => exact fun _ _ => rfl
    | cons c cs ih =>
      obtain ⟨head, tail⟩ := not_or.1 (fun mem => inside (List.mem_cons.2 mem))
      intro read rest
      rw [List.cons_append, Token.cutTag, if_neg (Ne.symm head), ih tail, List.reverse_cons, List.append_assoc]
      rfl
  intro read rest
  have opened : Token.cutTag none read ('"' :: (cs ++ '"' :: rest)) =
      Token.cutTag (some '"') ('"' :: read) (cs ++ '"' :: rest) := rfl
  rw [List.append_assoc, List.cons_append, List.singleton_append, opened, through]
  simp

/-- A written attribute is passed, since its value is escaped. -/
lemma printAttribute {a : String × String} (key : PlainName a.1) : Passes (printAttribute a) := by
  have inside : '"' ∉ escape a.2.toList := fun mem => (plain_of_mem_escape mem).2.2 rfl
  have blank : Passes [' '] := character (by decide) (by decide) (by decide)
  have sign : Passes ['='] := character (by decide) (by decide) (by decide)
  have written : Markup.printAttribute a =
      [' '] ++ (a.1.toList ++ (['='] ++ ('"' :: escape a.2.toList ++ ['"']))) := by
    simp [Markup.printAttribute]
  rw [written]
  exact blank.append ((plain key.plain).append (sign.append (quoted inside)))

/-- The tag of an element ends where it was ended. -/
lemma startTag {name : String} {attributes : List (String × String)} (named : PlainName name)
    (keys : ∀ a ∈ attributes, PlainName a.1) : Passes (startTag name attributes) :=
  (plain named.plain).append (flatMap fun a mem => printAttribute (keys a mem))

end Passes

/-- A tag is cut off behind what is passed. -/
lemma cut_of_passes {cs rest : List Char} (passes : Passes cs) :
    MarkupKind.tag.cut (cs ++ '>' :: rest) = some (cs, rest) := by
  show Token.cutTag none [] (cs ++ '>' :: rest) = some (cs, rest)
  rw [passes, List.append_nil]
  show some (cs.reverse.reverse, rest) = some (cs, rest)
  rw [List.reverse_reverse]

/-! ## The kind of a tag -/

/-- Written attributes end in a quote. -/
lemma getLast?_flatMap_printAttribute {attributes : List (String × String)} {c : Char}
    (last : c ∈ (attributes.flatMap printAttribute).getLast?) : c = '"' := by
  induction attributes with
  | nil => cases last
  | cons a attributes ih =>
    have closed : (printAttribute a).getLast? = some '"' := List.getLast?_concat
    rw [List.flatMap_cons, List.getLast?_append, closed] at last
    cases rest : (attributes.flatMap printAttribute).getLast? with
    | none =>
      rw [rest] at last
      cases last
      rfl
    | some d =>
      rw [rest] at last
      cases last
      exact ih rest

/-- The content of a start tag starts and ends without a slash. -/
lemma tagToken_startTag {name : String} {attributes : List (String × String)} (named : PlainName name) :
    MarkupKind.tagToken (startTag name attributes) = .openTag (startTag name attributes) false := by
  have last : (startTag name attributes).getLast? ≠ some '/' := by
    rw [startTag, List.getLast?_append]
    cases closed : (attributes.flatMap printAttribute).getLast? with
    | some c =>
      obtain rfl := getLast?_flatMap_printAttribute closed
      exact fun e => nomatch e
    | none =>
      intro e
      exact ne_of_plain (named.plain '/' (List.mem_of_mem_getLast? e)) (by decide) rfl
  unfold MarkupKind.tagToken
  split
  next rest slash =>
    cases spelled : name.toList with
    | nil => exact (named.nonempty (String.toList_eq_nil_iff.1 spelled)).elim
    | cons c cs =>
      rw [startTag, spelled] at slash
      cases slash
      have mem : '/' ∈ name.toList := spelled ▸ List.mem_cons_self
      exact (ne_of_plain (named.plain '/' mem) (by decide) rfl).elim
  next =>
    split
    next slash => exact (last slash).elim
    next => rfl

/-- What starts with a plain name is a tag. -/
lemma ofBody?_startTag {name : String} {attributes : List (String × String)} {rest : List Char}
    (named : PlainName name) : MarkupKind.ofBody? (startTag name attributes ++ rest) = some .tag := by
  cases spelled : name.toList with
  | nil => exact (named.nonempty (String.toList_eq_nil_iff.1 spelled)).elim
  | cons c cs =>
    have plain : isPlain c = true := named.plain c (spelled ▸ List.mem_cons_self)
    have mark : c ≠ '!' := ne_of_plain plain (by decide)
    have question : c ≠ '?' := ne_of_plain plain (by decide)
    rw [startTag, spelled, List.cons_append, List.cons_append]
    unfold MarkupKind.ofBody?
    split <;> simp_all

/-! ## Names and attributes -/

/-- The name of a written tag ends in front of its attributes. -/
lemma name_startTag {name : String} {attributes : List (String × String)} (named : PlainName name) :
    Tag.name (startTag name attributes) = name.toList := by
  have solid : ∀ c ∈ name.toList, (!isSpace c) = true := by
    intro c mem
    rw [not_isSpace_of_plain (named.plain c mem)]
    rfl
  rw [Tag.name, startTag, List.takeWhile_append_of_pos solid]
  cases attributes with
  | nil => exact List.append_nil _
  | cons a attributes => exact List.append_nil _

/-- Reading goes on behind an attribute whose parts are where they belong. -/
lemma attributesFrom_of_parts {position : Nat} {seen : List (List Char × Nat)} {first : Char}
    {content behindFirst key behindSign behindQuote raw rest value : List Char}
    (atKey : content.dropWhile isSpace = first :: behindFirst)
    (spelled : behindFirst.takeWhile Tag.isKeyCharacter = key)
    (atSign : (behindFirst.dropWhile Tag.isKeyCharacter).dropWhile isSpace = '=' :: behindSign)
    (new : seen.lookup (first :: key) = none)
    (atQuote : behindSign.dropWhile isSpace = '"' :: behindQuote)
    (quoted : behindQuote.takeWhile (· ≠ '"') = raw)
    (atEnd : behindQuote.dropWhile (· ≠ '"') = '"' :: rest) (read : unescape raw = .ok value) :
    ∃ position' start, Tag.attributesFrom position seen content =
      (Tag.attributesFrom position' ((first :: key, start) :: seen) rest).map
        ((String.ofList (first :: key), String.ofList value) :: ·) := by
  subst spelled quoted
  rw [Tag.attributesFrom]
  split
  next nothing => cases nothing.symm.trans atKey
  next first' behindFirst' atKey' =>
    cases atKey'.symm.trans atKey
    dsimp only
    split
    next behindSign' atSign' =>
      cases atSign'.symm.trans atSign
      rw [new]
      dsimp only
      split
      next nothing => cases nothing.symm.trans atQuote
      next quote behindQuote' atQuote' =>
        cases atQuote'.symm.trans atQuote
        rw [if_neg (fun h => h.1 rfl)]
        split
        next nothing => cases nothing.symm.trans atEnd
        next quote' rest' atEnd' =>
          cases atEnd'.symm.trans atEnd
          rw [read]
          exact ⟨_, _, rfl⟩
    next otherwise => exact (otherwise behindSign atSign).elim

/-- A written key is read up to the equals sign. -/
lemma takeWhile_key {key rest : List Char} (plain : ∀ c ∈ key, isPlain c = true) :
    (key ++ '=' :: rest).takeWhile Tag.isKeyCharacter = key := by
  rw [List.takeWhile_append_of_pos fun c mem => isKeyCharacter_of_plain (plain c mem)]
  exact List.append_nil key

/-- Behind a written key there is the equals sign. -/
lemma dropWhile_key {key rest : List Char} (plain : ∀ c ∈ key, isPlain c = true) :
    ((key ++ '=' :: rest).dropWhile Tag.isKeyCharacter).dropWhile isSpace = '=' :: rest := by
  rw [List.dropWhile_append_of_pos fun c mem => isKeyCharacter_of_plain (plain c mem)]
  rfl

/-- An attribute is read back. -/
lemma attributesFrom_cons {position : Nat} {seen : List (List Char × Nat)} {a : String × String}
    {rest : List Char} (key : PlainName a.1) (new : seen.lookup a.1.toList = none) :
    ∃ position' start, Tag.attributesFrom position seen (printAttribute a ++ rest) =
      (Tag.attributesFrom position' ((a.1.toList, start) :: seen) rest).map (a :: ·) := by
  have inside : ∀ c ∈ escape a.2.toList, decide (c ≠ '"') = true :=
    fun c mem => decide_eq_true (plain_of_mem_escape mem).2.2
  have quoted : (escape a.2.toList ++ '"' :: rest).takeWhile (· ≠ '"') = escape a.2.toList := by
    rw [List.takeWhile_append_of_pos inside]
    exact List.append_nil _
  have atEnd : (escape a.2.toList ++ '"' :: rest).dropWhile (· ≠ '"') = '"' :: rest := by
    rw [List.dropWhile_append_of_pos inside]
    rfl
  have named : (String.ofList a.1.toList, String.ofList a.2.toList) = a := by
    rw [String.ofList_toList, String.ofList_toList]
  cases spelled : a.1.toList with
  | nil => exact (key.nonempty (String.toList_eq_nil_iff.1 spelled)).elim
  | cons c cs =>
    have plain := key.plain
    rw [spelled] at plain new named
    obtain ⟨head, tail⟩ := List.forall_mem_cons.1 plain
    have atKey : (printAttribute a ++ rest).dropWhile isSpace =
        c :: (cs ++ '=' :: '"' :: (escape a.2.toList ++ '"' :: rest)) := by
      have written : printAttribute a ++ rest =
          ' ' :: c :: (cs ++ '=' :: '"' :: (escape a.2.toList ++ '"' :: rest)) := by
        simp [printAttribute, spelled]
      rw [written]
      exact List.dropWhile_cons_of_neg (Bool.eq_false_iff.1 (not_isSpace_of_plain head))
    obtain ⟨position', start, read⟩ : ∃ position' start,
        Tag.attributesFrom position seen (printAttribute a ++ rest) = _ :=
      attributesFrom_of_parts atKey (takeWhile_key tail) (dropWhile_key tail) new rfl quoted atEnd
        (unescape_escape _)
    rw [named] at read
    exact ⟨position', start, read⟩

/-- Attributes with distinct plain keys are read back in their order. -/
lemma attributesFrom_flatMap {position : Nat} {seen : List (List Char × Nat)}
    {attributes : List (String × String)} (keys : ∀ a ∈ attributes, PlainName a.1)
    (nodup : (attributes.map (·.1)).Nodup)
    (new : ∀ a ∈ attributes, seen.lookup a.1.toList = none) :
    Tag.attributesFrom position seen (attributes.flatMap printAttribute) = .ok attributes := by
  induction attributes generalizing position seen with
  | nil =>
    rw [List.flatMap_nil, Tag.attributesFrom]
    rfl
  | cons a attributes ih =>
    obtain ⟨key, keys⟩ := List.forall_mem_cons.1 keys
    obtain ⟨new, newer⟩ := List.forall_mem_cons.1 new
    rw [List.map_cons, List.nodup_cons] at nodup
    obtain ⟨position', start, read⟩ : ∃ position' start, Tag.attributesFrom position seen
        (printAttribute a ++ attributes.flatMap printAttribute) = _ := attributesFrom_cons key new
    rw [List.flatMap_cons, read, ih keys nodup.2]
    · rfl
    · intro b mem
      have differ : b.1.toList ≠ a.1.toList := by
        intro same
        exact nodup.1 (String.toList_injective same ▸ List.mem_map_of_mem mem)
      rw [List.lookup_cons, beq_false_of_ne differ]
      exact newer b mem

/-- All attributes of a written tag are read back. -/
lemma attributes_startTag {name : String} {attributes : List (String × String)} (named : PlainName name)
    (keys : ∀ a ∈ attributes, PlainName a.1) (nodup : (attributes.map (·.1)).Nodup) :
    Tag.attributes (startTag name attributes) = .ok attributes := by
  rw [Tag.attributes, name_startTag named, startTag, List.drop_left]
  exact attributesFrom_flatMap keys nodup fun _ _ => rfl

end CapabilityRegistry.Markup
