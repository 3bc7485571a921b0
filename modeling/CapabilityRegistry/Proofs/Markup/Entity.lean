import CapabilityRegistry.Markup.Entity
import Mathlib.Tactic.Lemma

/-!
# Escaped text

What `escape` writes holds none of the characters that end text, values or tags (`plain_of_mem_escape`),
and `unescape` gives back what was written (`unescape_escape`).
-/

namespace CapabilityRegistry.Markup

variable {c d : Char} {cs rest : List Char} {size offset : Nat}

/-- Characters without a meaning in markup stay as they are. -/
lemma escapeCharacter_of_plain (amp : c ≠ '&') (lt : c ≠ '<') (gt : c ≠ '>') (quot : c ≠ '"') :
    escapeCharacter c = [c] := by
  unfold escapeCharacter
  split
  next => exact (amp rfl).elim
  next => exact (lt rfl).elim
  next => exact (gt rfl).elim
  next => exact (quot rfl).elim
  next => rfl

/-- Every character has something written for it. -/
lemma escapeCharacter_ne_nil : escapeCharacter c ≠ [] := by
  unfold escapeCharacter
  split
  all_goals exact List.cons_ne_nil _ _

/-- An entity has no characters that end text or values. -/
lemma entity_plain {entity : List Char}
    (plain : (entity.all fun d => d ≠ '<' ∧ d ≠ '>' ∧ d ≠ '"') = true) (mem : d ∈ entity) :
    d ≠ '<' ∧ d ≠ '>' ∧ d ≠ '"' :=
  of_decide_eq_true (List.all_eq_true.1 plain d mem)

/-- An escaped character has none that ends text or values. -/
lemma plain_of_mem_escapeCharacter (mem : d ∈ escapeCharacter c) : d ≠ '<' ∧ d ≠ '>' ∧ d ≠ '"' := by
  unfold escapeCharacter at mem
  split at mem
  next => exact entity_plain (by decide) mem
  next => exact entity_plain (by decide) mem
  next => exact entity_plain (by decide) mem
  next => exact entity_plain (by decide) mem
  next amp lt gt quot =>
    obtain rfl := List.mem_singleton.1 mem
    exact ⟨lt, gt, quot⟩

/-- An escaped text has no characters that end text or values. -/
lemma plain_of_mem_escape (mem : d ∈ escape cs) : d ≠ '<' ∧ d ≠ '>' ∧ d ≠ '"' := by
  obtain ⟨c, _, mem⟩ := List.mem_flatMap.1 mem
  exact plain_of_mem_escapeCharacter mem

/-- Every text that is not empty has something written for it. -/
lemma escape_ne_nil (nonempty : cs ≠ []) : escape cs ≠ [] := by
  cases cs with
  | nil => exact (nonempty rfl).elim
  | cons c cs => exact List.append_ne_nil_of_left_ne_nil escapeCharacter_ne_nil _

/-- The entity of a character, or the character itself, is read as that character. -/
lemma replace_escapeCharacter :
    ∃ next, Entity.replace size offset none (escapeCharacter c ++ rest) =
      (Entity.replace size next none rest).map (c :: ·) := by
  by_cases amp : c = '&'
  · subst amp
    exact ⟨_, rfl⟩
  by_cases lt : c = '<'
  · subst lt
    exact ⟨_, rfl⟩
  by_cases gt : c = '>'
  · subst gt
    exact ⟨_, rfl⟩
  by_cases quot : c = '"'
  · subst quot
    exact ⟨_, rfl⟩
  refine ⟨offset + c.utf8Size, ?_⟩
  rw [escapeCharacter_of_plain amp lt gt quot, List.singleton_append, Entity.replace]
  exact if_neg amp

/-- Where entities are replaced, the escaped text is itself again. -/
lemma replace_escape : Entity.replace size offset none (escape cs) = .ok cs := by
  induction cs generalizing offset with
  | nil => rfl
  | cons c cs ih =>
    obtain ⟨next, read⟩ : ∃ next, Entity.replace size offset none (escapeCharacter c ++ escape cs) = _ :=
      replace_escapeCharacter
    rw [escape, List.flatMap_cons, ← escape, read, ih]
    rfl

/-- What was escaped is given back. -/
theorem unescape_escape (cs : List Char) : unescape (escape cs) = .ok cs :=
  replace_escape

end CapabilityRegistry.Markup
