import CapabilityRegistry.Markup.Token

/-!
# Start tags

The content of a start tag is a name and attributes. Keys are bare, values are quoted, and no key
comes twice. Positions in faults count the bytes of the content.
-/

namespace CapabilityRegistry.Markup

namespace Tag

/-- The name at the start of a tag. -/
def name (content : List Char) : List Char :=
  content.takeWhile (!isSpace ·)

/-- A character that goes on with a key. -/
def isKeyCharacter (c : Char) : Bool :=
  c != '=' && !isSpace c

/-- Of a text whose first characters are dropped, what is behind the next one is shorter. -/
theorem shorter_of_dropWhile {p : Char → Bool} {cs rest : List Char} {c : Char}
    (h : cs.dropWhile p = c :: rest) : rest.length < cs.length := by
  have le := (cs.dropWhile_sublist p).length_le
  rw [h] at le
  exact le

/-- Reads attributes from byte `position` on, behind those with the keys and key positions `seen`. -/
def attributesFrom (position : Nat) (seen : List (List Char × Nat)) (content : List Char) :
    Except Fault (List (String × String)) :=
  match atKey : content.dropWhile isSpace with
  | [] => .ok []
  | first :: behindFirst =>
    let start := position + byteLength (content.takeWhile isSpace)
    let key := first :: behindFirst.takeWhile isKeyCharacter
    let behindKey := behindFirst.dropWhile isKeyCharacter
    let sign := start + byteLength key + byteLength (behindKey.takeWhile isSpace)
    match atSign : behindKey.dropWhile isSpace with
    | '=' :: behindSign =>
      match seen.lookup key with
      | some previous => .error (.attributes (.duplicate start previous))
      | none =>
        let opening := sign + 1 + byteLength (behindSign.takeWhile isSpace)
        match atQuote : behindSign.dropWhile isSpace with
        | [] => .error (.attributes (.missingValue opening))
        | quote :: behindQuote =>
          let raw := behindQuote.takeWhile (· ≠ quote)
          let closing := opening + 1 + byteLength raw
          if quote ≠ '"' ∧ quote ≠ '\'' then .error (.attributes (.unquotedValue opening))
          else
            match atEnd : behindQuote.dropWhile (· ≠ quote) with
            | [] => .error (.attributes (.openValue closing quote))
            | _ :: rest =>
              have _shorter : rest.length < content.length := by
                have := shorter_of_dropWhile atKey
                have : behindKey.length ≤ behindFirst.length :=
                  (behindFirst.dropWhile_sublist isKeyCharacter).length_le
                have := shorter_of_dropWhile atSign
                have := shorter_of_dropWhile atQuote
                have := shorter_of_dropWhile atEnd
                omega
              match unescape raw with
              | .error fault => .error (.entity fault)
              | .ok value => do
                let others ← attributesFrom (closing + 1) ((key, start) :: seen) rest
                return (String.ofList key, String.ofList value) :: others
    | _ => .error (.attributes (.missingEquals sign))
termination_by content.length

/-- The attributes of a tag, in order. -/
def attributes (content : List Char) : Except Fault (List (String × String)) :=
  let name := name content
  attributesFrom (byteLength name) [] (content.drop name.length)

end Tag

end CapabilityRegistry.Markup
