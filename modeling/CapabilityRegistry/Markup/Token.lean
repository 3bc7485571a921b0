import CapabilityRegistry.Markup.Entity

/-!
# Tokens of a document

A document is a sequence of runs of text and of markup between `<` and `>`. Tokens are cut without
regard to which tags are open. Main definition: `lex`, which gives every token with the position
behind it, up to the end of the document or to the first markup that does not end.
-/

namespace CapabilityRegistry.Markup

/-- White space of the markup itself. -/
def isSpace (c : Char) : Bool :=
  c == ' ' || c == '\t' || c == '\r' || c == '\n'

/-- A run of text or a piece of markup. -/
inductive Token where
  | text (raw : List Char)
  | cdata (content : List Char)
  /-- A comment, a declaration, a processing instruction or a document type. -/
  | ignored
  /-- The content of a start tag, without the slash if the element is empty. -/
  | openTag (content : List Char) (empty : Bool)
  /-- The content of an end tag behind the slash. -/
  | closeTag (content : List Char)
  deriving DecidableEq, Repr

namespace Token

/-- Cuts at the first `>` at which `ends` holds of the characters read, nearest first. -/
def cut (ends : List Char → Bool) (read : List Char) : List Char → Option (List Char × List Char)
  | [] => none
  | c :: cs => if c = '>' ∧ ends read then some (read.reverse, cs) else cut ends (c :: read) cs

/-- Cuts at the first `>` that is not inside quotes; `quote` is the one that is open. -/
def cutTag (quote : Option Char) (read : List Char) : List Char → Option (List Char × List Char)
  | [] => none
  | c :: cs =>
    match quote with
    | some q => cutTag (if c = q then none else some q) (c :: read) cs
    | none =>
      if c = '>' then some (read.reverse, cs)
      else cutTag (if c = '"' ∨ c = '\'' then some c else none) (c :: read) cs

/-- Cuts at the first `>` outside of inner angle brackets, `depth` of which are open. -/
def cutBalanced (depth : Nat) (read : List Char) : List Char → Option (List Char × List Char)
  | [] => none
  | c :: cs =>
    if c = '>' then
      match depth with
      | 0 => some (read.reverse, cs)
      | outer + 1 => cutBalanced outer (c :: read) cs
    else cutBalanced (if c = '<' then depth + 1 else depth) (c :: read) cs

/-- A cut that finds its end leaves less than there was. -/
theorem cut_shorter {ends : List Char → Bool} {read cs content rest : List Char}
    (h : cut ends read cs = some (content, rest)) : rest.length < cs.length := by
  induction cs generalizing read with
  | nil => simp [cut] at h
  | cons c cs ih =>
    unfold cut at h
    split at h
    · simp_all
    · exact Nat.lt_succ_of_lt (ih h)

/-- A tag that finds its end leaves less than there was, inside and outside quotes. -/
theorem cutTag_shorter {quote : Option Char} {read cs content rest : List Char}
    (h : cutTag quote read cs = some (content, rest)) : rest.length < cs.length := by
  induction cs generalizing quote read with
  | nil => simp [cutTag] at h
  | cons c cs ih =>
    unfold cutTag at h
    split at h
    · exact Nat.lt_succ_of_lt (ih h)
    · split at h
      · simp_all
      · exact Nat.lt_succ_of_lt (ih h)

/-- Brackets that are closed leave less than there was, however deep they are. -/
theorem cutBalanced_shorter {depth : Nat} {read cs content rest : List Char}
    (h : cutBalanced depth read cs = some (content, rest)) : rest.length < cs.length := by
  induction cs generalizing depth read with
  | nil => simp [cutBalanced] at h
  | cons c cs ih =>
    unfold cutBalanced at h
    split at h
    · split at h
      · simp_all
      · exact Nat.lt_succ_of_lt (ih h)
    · exact Nat.lt_succ_of_lt (ih h)

end Token

/-- The kinds of markup behind a `<`, told by the first characters. -/
inductive MarkupKind where
  | cdata
  | comment
  | doctype
  | instruction
  | tag
  deriving DecidableEq, Repr

namespace MarkupKind

/-- The kind of markup that `body` starts. -/
def ofBody? (body : List Char) : Option MarkupKind :=
  match body with
  | '!' :: '[' :: _ => some .cdata
  | '!' :: '-' :: _ => some .comment
  | '!' :: 'D' :: _ => some .doctype
  | '!' :: 'd' :: _ => some .doctype
  | '!' :: _ => none
  | '?' :: _ => some .instruction
  | _ => some .tag

/-- The characters read end in `]]`. -/
def endsCData : List Char → Bool
  | ']' :: ']' :: _ => true
  | _ => false

/-- The characters read end in `--` and are more than the start of a comment. -/
def endsComment (read : List Char) : Bool :=
  match read with
  | '-' :: '-' :: _ => 4 < read.length
  | _ => false

/-- The characters read end in `?`. -/
def endsInstruction : List Char → Bool
  | '?' :: _ => true
  | _ => false

/-- Cuts markup of a kind at its closing `>`. -/
def cut : MarkupKind → List Char → Option (List Char × List Char)
  | cdata => Token.cut endsCData []
  | comment => Token.cut endsComment []
  | doctype => Token.cutBalanced 0 []
  | instruction => Token.cut endsInstruction []
  | tag => Token.cutTag none []

/-- Whatever its kind is, markup takes up some of the text. -/
theorem cut_shorter {kind : MarkupKind} {body content rest : List Char}
    (h : kind.cut body = some (content, rest)) : rest.length < body.length := by
  cases kind with
  | cdata => exact Token.cut_shorter h
  | comment => exact Token.cut_shorter h
  | doctype => exact Token.cutBalanced_shorter h
  | instruction => exact Token.cut_shorter h
  | tag => exact Token.cutTag_shorter h

/-- The fault of markup of a kind that does not end. -/
def openFault : MarkupKind → StructureFault
  | cdata => .openCData
  | comment => .openComment
  | doctype => .openDoctype
  | instruction => .openInstruction
  | tag => .openTag

/-- The token of a tag with this content; a slash at its start closes, one at its end is that of an
empty element. -/
def tagToken (content : List Char) : Token :=
  match content with
  | '/' :: name => .closeTag name
  | _ =>
    match content.getLast? with
    | some '/' => .openTag content.dropLast true
    | _ => .openTag content false

/-- The token of markup with this content, unless its start is not that of its kind. -/
def token (kind : MarkupKind) (content : List Char) : Except StructureFault Token :=
  match kind with
  | cdata =>
    match "![CDATA[".toList.isPrefixOf? content with
    | some data => .ok (.cdata (data.take (data.length - 2)))
    | none => .error .openCData
  | comment => if "!--".toList.isPrefixOf content then .ok .ignored else .error .openComment
  | doctype =>
    if (content.take 8).map Char.toUpper ≠ "!DOCTYPE".toList then .error .openDoctype
    else if (content.drop 8).all isSpace then .error .namelessDoctype
    else .ok .ignored
  | instruction => if 2 ≤ content.length then .ok .ignored else .error .openInstruction
  | tag => .ok (tagToken content)

end MarkupKind

/-- A token and the number of bytes of the document up to its end. -/
structure Located where
  token : Token
  stop : Nat
  deriving DecidableEq, Repr

/-- The tokens of a document up to its end, or up to the position of a fault. -/
structure Lexing where
  tokens : List Located
  fault : Option (Nat × StructureFault)
  deriving DecidableEq, Repr

/-- Reads tokens behind those `done`, which are held in reverse and end at byte `position`. -/
def lexFrom (position : Nat) (done : List Located) (input : List Char) : Lexing :=
  match input with
  | [] => ⟨done.reverse, none⟩
  | '<' :: body =>
    let start := position + 1
    match MarkupKind.ofBody? body with
    | none => ⟨done.reverse, some (start, .unknownMarkup)⟩
    | some kind =>
      match cutting : kind.cut body with
      | none => ⟨done.reverse, some (start + byteLength body, kind.openFault)⟩
      | some (content, rest) =>
        have _shorter := MarkupKind.cut_shorter cutting
        let stop := start + byteLength content + 1
        match kind.token content with
        | .error fault => ⟨done.reverse, some (stop, fault)⟩
        | .ok token => lexFrom stop (⟨token, stop⟩ :: done) rest
  | c :: cs =>
    let raw := c :: cs.takeWhile (· ≠ '<')
    have _shorter := (cs.dropWhile_sublist (· ≠ '<')).length_le
    let stop := position + byteLength raw
    lexFrom stop (⟨.text raw, stop⟩ :: done) (cs.dropWhile (· ≠ '<'))
termination_by input.length
decreasing_by all_goals grind

/-- The tokens of a document. A byte order mark before it does not count. -/
def lex (document : List Char) : Lexing :=
  match document with
  | '\uFEFF' :: rest => lexFrom 0 [] rest
  | _ => lexFrom 0 [] document

end CapabilityRegistry.Markup
