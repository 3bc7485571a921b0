import CapabilityRegistry.Numeral
import CapabilityRegistry.Toml.Spacing

/-!
# Quoted text

Text between double quotes, where a backslash starts an escape, and between single quotes, where it
does not. Text between three quotes of a kind may hold line ends, which read as line feeds, and up to
two quotes of its kind in a row.
-/

namespace CapabilityRegistry.Toml

/-- The character whose code has so many hexadecimal digits. -/
def codePoint? (width : Nat) (cs : List Char) : Option (Char × List Char) := do
  let digits := cs.take width
  let code ← Numeral.natural? 16 digits
  if digits.length = width ∧ code.isValidChar then some (Char.ofNat code, cs.drop width) else none

/-- The character of the escape behind a backslash. -/
def escape? : List Char → Option (Char × List Char)
  | 'b' :: cs => some ('\x08', cs)
  | 't' :: cs => some ('\t', cs)
  | 'n' :: cs => some ('\n', cs)
  | 'f' :: cs => some ('\x0c', cs)
  | 'r' :: cs => some ('\r', cs)
  | '"' :: cs => some ('"', cs)
  | '\\' :: cs => some ('\\', cs)
  | 'u' :: cs => codePoint? 4 cs
  | 'U' :: cs => codePoint? 8 cs
  | _ => none

/-- Reading a code point adds nothing to the text. -/
theorem codePoint?_rest_le {width : Nat} {cs rest : List Char} {c : Char}
    (h : codePoint? width cs = some (c, rest)) : rest.length ≤ cs.length := by
  simp only [codePoint?, Option.bind_eq_bind, Option.bind_eq_some_iff] at h
  obtain ⟨_, _, h⟩ := h
  split at h
  · cases h
    exact cs.length_drop ▸ Nat.sub_le _ _
  · cases h

/-- An escape takes up some of the text. -/
theorem escape?_shorter {cs rest : List Char} {c : Char} (h : escape? cs = some (c, rest)) :
    rest.length < cs.length := by
  unfold escape? at h
  split at h
  case h_8 | h_9 => exact Nat.lt_succ_of_le (codePoint?_rest_le h)
  case h_10 => cases h
  all_goals cases h; exact Nat.lt_succ_self _

/-- What follows a backslash at the end of a line: the line end and all blanks and line ends behind
it. -/
def continuation? (cs : List Char) : Option (List Char) :=
  (lineEnd? (skipBlanks cs)).map skipLines

/-- Passing the end of a line adds nothing to the text. -/
theorem length_lineEnd?_le {cs rest : List Char} (h : lineEnd? cs = some rest) :
    rest.length ≤ cs.length := by
  unfold lineEnd? at h
  split at h
  · cases h
    exact Nat.le_succ _
  · cases h
    exact Nat.le_add_right _ 2
  · cases h

/-- Passing the blank lines of a continuation adds nothing to the text. -/
theorem continuation?_rest_le {cs rest : List Char} (h : continuation? cs = some rest) :
    rest.length ≤ cs.length := by
  obtain ⟨line, found, rfl⟩ := Option.map_eq_some_iff.1 h
  calc (skipLines line).length
    _ ≤ line.length := length_skipLines_le line
    _ ≤ (skipBlanks cs).length := length_lineEnd?_le found
    _ ≤ cs.length := (List.dropWhile_sublist isBlank).length_le

/-- Text up to the closing double quote, behind the characters `read`, nearest first. -/
def basicText (read cs : List Char) : Option (List Char × List Char) :=
  match cs with
  | [] => none
  | '"' :: rest => some (read.reverse, rest)
  | '\\' :: rest =>
    match found : escape? rest with
    | some (c, rest) =>
      have _shorter := escape?_shorter found
      basicText (c :: read) rest
    | none => none
  | c :: rest => if isPrintable c then basicText (c :: read) rest else none
termination_by cs.length
decreasing_by all_goals grind

/-- Text up to the closing single quote, behind the characters `read`, nearest first. -/
def literalText (read : List Char) : List Char → Option (List Char × List Char)
  | [] => none
  | c :: rest =>
    if c = '\'' then some (read.reverse, rest)
    else if isPrintable c then literalText (c :: read) rest
    else none

/-- Three quotes that close a text. Of more quotes in a row the first two belong to the text; gives
their number. -/
def closing? (quote : Char) : List Char → Option (Nat × List Char)
  | a :: b :: c :: rest =>
    if a = quote ∧ b = quote ∧ c = quote then
      let extra := min 2 (rest.takeWhile (· = quote)).length
      some (extra, rest.drop extra)
    else none
  | _ => none

/-- Text up to three closing double quotes, behind the characters `read`, nearest first. -/
def basicLines (read cs : List Char) : Option (List Char × List Char) :=
  match closing? '"' cs with
  | some (extra, rest) => some (read.reverse ++ List.replicate extra '"', rest)
  | none =>
    match cs with
    | [] => none
    | '\r' :: '\n' :: rest => basicLines ('\n' :: read) rest
    | '\\' :: rest =>
      match joined : continuation? rest with
      | some more =>
        have _notLonger := continuation?_rest_le joined
        basicLines read more
      | none =>
        match found : escape? rest with
        | some (c, more) =>
          have _shorter := escape?_shorter found
          basicLines (c :: read) more
        | none => none
    | c :: rest => if c = '\n' ∨ isPrintable c then basicLines (c :: read) rest else none
termination_by cs.length
decreasing_by all_goals grind

/-- Text up to three closing single quotes, behind the characters `read`, nearest first. -/
def literalLines (read cs : List Char) : Option (List Char × List Char) :=
  match closing? '\'' cs with
  | some (extra, rest) => some (read.reverse ++ List.replicate extra '\'', rest)
  | none =>
    match cs with
    | [] => none
    | '\r' :: '\n' :: rest => literalLines ('\n' :: read) rest
    | c :: rest => if c = '\n' ∨ isPrintable c then literalLines (c :: read) rest else none

/-- What follows the line end at the start of a text between three quotes. -/
def skipFirstLineEnd (cs : List Char) : List Char :=
  (lineEnd? cs).getD cs

/-- A string on one line, as keys may be. -/
def shortString? : List Char → Option (String × List Char)
  | '"' :: cs => (basicText [] cs).map fun (text, rest) => (String.ofList text, rest)
  | '\'' :: cs => (literalText [] cs).map fun (text, rest) => (String.ofList text, rest)
  | _ => none

/-- A string of any kind. -/
def string? (cs : List Char) : Option (String × List Char) :=
  match cs with
  | '"' :: '"' :: '"' :: body =>
    (basicLines [] (skipFirstLineEnd body)).map fun (text, rest) => (String.ofList text, rest)
  | '\'' :: '\'' :: '\'' :: body =>
    (literalLines [] (skipFirstLineEnd body)).map fun (text, rest) => (String.ofList text, rest)
  | _ => shortString? cs

end CapabilityRegistry.Toml
