import CapabilityRegistry.Markup.Document
import CapabilityRegistry.Proofs.Success

/-!
# Reader and builder

The reading of a document in two parts that each keep account of the open elements. The reader knows their
names: it turns tokens into events and rejects an end tag that is not that of the innermost one
(`Reader.read`). The builder knows their content: it puts events into a tree and rejects an end tag only where
no element is open at all (`Progress.take`). Step by step they do what `Progress.step` does (`step_joint`), so
the builder has nothing to reject (`parseJoint_eq`), and a document may be read to its end before its tree is
built (`foldlM_step_eq_ok_iff`).
-/

namespace CapabilityRegistry.Markup

/-- What the reader tells the builder about a token. -/
inductive Event where
  | start (name : String) (attributes : List (String × String))
  | empty (name : String) (attributes : List (String × String))
  | stop (name : String)
  | text (content : List Char)
  /-- A comment, a declaration, a processing instruction or a document type. -/
  | silent

/-- Why a document is rejected: for a fault that is in it, or because the builder sees the end of an element
where none is open. -/
inductive Rejection where
  | fault (fault : Fault)
  | unbalanced

/-- The wording of a rejection. -/
def Rejection.message : Rejection → String
  | .fault reason => reason.message
  | .unbalanced => "unbalanced closing tag"

namespace Reader

/-- Reads a token inside the open elements of these names, innermost first. -/
def read (opened : List String) (located : Located) : Except Fault (Event × List String) :=
  match located.token with
  | .ignored => .ok (.silent, opened)
  | .cdata content => .ok (.text content, opened)
  | .text raw =>
    match unescape raw with
    | .ok content => .ok (.text content, opened)
    | .error fault => .error (.entity fault)
  | .openTag content empty => do
    let attributes ← Tag.attributes content
    let name := String.ofList (Tag.name content)
    if empty then return (.empty name attributes, opened) else return (.start name attributes, name :: opened)
  | .closeTag content =>
    let name := String.ofList (Progress.closeName content)
    match opened with
    | [] => .error (.malformed located.stop (.unmatchedClose name))
    | innermost :: outer =>
      if innermost = name then .ok (.stop name, outer)
      else .error (.malformed located.stop (.mismatchedClose innermost name))

/-- Reads tokens up to the first fault. -/
def readAll (opened : List String) : List Located → Except Fault (List Event × List String)
  | [] => .ok ([], opened)
  | located :: rest => do
    let (event, opened) ← read opened located
    let (events, opened) ← readAll opened rest
    return (event :: events, opened)

end Reader

/-- An event goes on with these names open where those were: a start tag opens its name, and an end tag closes
the innermost one, which must be its own. -/
inductive Event.Moves : List String → Event → List String → Prop where
  | silent {opened} : Moves opened .silent opened
  | text {opened content} : Moves opened (.text content) opened
  | empty {opened name attributes} : Moves opened (.empty name attributes) opened
  | start {opened name attributes} : Moves opened (.start name attributes) (name :: opened)
  | stop {opened name} : Moves (name :: opened) (.stop name) opened

/-- The reader reports no end tag but that of the innermost open element. -/
lemma Reader.moves {opened opened' : List String} {located : Located} {event : Event}
    (read : Reader.read opened located = .ok (event, opened')) : event.Moves opened opened' := by
  obtain ⟨token, stop⟩ := located
  cases token with
  | ignored =>
    cases read
    exact .silent
  | cdata content =>
    cases read
    exact .text
  | text raw =>
    rw [Reader.read] at read
    dsimp only at read
    split at read
    next =>
      cases read
      exact .text
    next => cases read
  | openTag content empty =>
    obtain ⟨attributes, -, read⟩ := bind_eq_ok.1 read
    cases empty with
    | true =>
      cases read
      exact .empty
    | false =>
      cases read
      exact .start
  | closeTag content =>
    rw [Reader.read] at read
    dsimp only at read
    split at read
    next => cases read
    next innermost outer =>
      split at read
      next same =>
        cases read
        rw [same]
        exact .stop
      next => cases read

/-- Tokens are read to the end where the first one is and then the others are. -/
lemma Reader.readAll_cons_eq_ok {opened opened' : List String} {located : Located} {tokens : List Located}
    {events : List Event} :
    Reader.readAll opened (located :: tokens) = .ok (events, opened') ↔
      ∃ event middle others, Reader.read opened located = .ok (event, middle) ∧
        Reader.readAll middle tokens = .ok (others, opened') ∧ events = event :: others := by
  constructor
  · intro reads
    obtain ⟨⟨event, middle⟩, read, reads⟩ := bind_eq_ok.1 reads
    obtain ⟨⟨others, _⟩, reads, done⟩ := bind_eq_ok.1 reads
    cases done
    exact ⟨event, middle, others, read, reads, rfl⟩
  · rintro ⟨event, middle, others, read, reads, rfl⟩
    exact bind_eq_ok.2 ⟨(event, middle), read, bind_eq_ok.2 ⟨(others, opened'), reads, rfl⟩⟩

/-- Puts an event into the tree. -/
def Progress.take (p : Progress) : Event → Except Rejection Progress
  | .silent => .ok p
  | .text content => .ok (p.addText content)
  | .start name attributes => .ok { p with frames := ⟨name, attributes, []⟩ :: p.frames }
  | .empty name attributes => (p.addElement ⟨name, attributes, []⟩).mapError .fault
  | .stop _ =>
    match p.frames with
    | [] => .error .unbalanced
    | f :: outer => ({ p with frames := outer }.addElement f.close).mapError .fault

/-- The reader, as the names of the elements that it knows to be open, and the builder. -/
structure Joint where
  opened : List String := []
  built : Progress := {}

/-- The reader reads a token and the builder takes the event. -/
def Joint.step (joint : Joint) (located : Located) : Except Rejection Joint := do
  let (event, opened) ← (Reader.read joint.opened located).mapError .fault
  let built ← joint.built.take event
  return ⟨opened, built⟩

/-- A step succeeds where the token is read and the event taken. -/
lemma Joint.step_eq_ok {opened : List String} {p : Progress} {located : Located} {joint : Joint} :
    Joint.step ⟨opened, p⟩ located = .ok joint ↔
      ∃ event middle q, Reader.read opened located = .ok (event, middle) ∧ p.take event = .ok q ∧
        joint = ⟨middle, q⟩ := by
  constructor
  · intro step
    obtain ⟨⟨event, middle⟩, read, step⟩ := bind_eq_ok.1 step
    obtain ⟨q, taken, step⟩ := bind_eq_ok.1 step
    cases step
    exact ⟨event, middle, q, mapError_eq_ok.1 read, taken, rfl⟩
  · rintro ⟨event, middle, q, read, taken, rfl⟩
    exact bind_eq_ok.2 ⟨(event, middle), mapError_eq_ok.2 read, bind_eq_ok.2 ⟨q, taken, rfl⟩⟩

/-- The root element of a document, read by the reader and built by the builder. -/
def parseJoint (document : String) : Except Rejection Element := do
  let lexing := lex document.toList
  let joint ← lexing.tokens.foldlM Joint.step {}
  match lexing.fault with
  | some (position, fault) => throw (.fault (.malformed position fault))
  | none => joint.built.finish.mapError .fault

/-! ## Both in step -/

/-- The names of the open elements, innermost first. -/
def Progress.names (p : Progress) : List String :=
  p.frames.map Frame.name

/-- The reader and the builder where the builder has come to `p`. -/
def Progress.joint (p : Progress) : Joint :=
  ⟨p.names, p⟩

section step
variable {p q : Progress} {e : Element} {located : Located}

/-- A run of text leaves the open elements open. -/
lemma joint_addText {content : List Char} :
    (⟨p.names, p.addText content⟩ : Joint) = (p.addText content).joint := by
  obtain ⟨frames, root⟩ := p
  cases frames with
  | nil => rfl
  | cons f outer => rfl

/-- Adding an element opens and closes none. -/
lemma names_of_addElement (added : p.addElement e = .ok q) : q.names = p.names := by
  obtain ⟨frames, root⟩ := p
  cases frames with
  | nil =>
    rw [Progress.addElement] at added
    dsimp only at added
    split at added
    next =>
      cases added
      rfl
    next => cases added
  | cons f outer =>
    cases added
    rfl

/-- A whole element leaves the open ones open. -/
lemma joint_addElement :
    (do let built ← (p.addElement e).mapError Rejection.fault; return ⟨p.names, built⟩) =
      (Progress.joint <$> p.addElement e).mapError Rejection.fault := by
  cases added : p.addElement e with
  | error fault => rfl
  | ok q =>
    show Except.ok (⟨p.names, q⟩ : Joint) = .ok ⟨q.names, q⟩
    rw [names_of_addElement added]

/-- The reader and the builder agree on the open elements, and so they do together what one step does. -/
theorem step_joint : p.joint.step located = (Progress.joint <$> p.step located).mapError .fault := by
  obtain ⟨token, stop⟩ := located
  cases token with
  | ignored => rfl
  | cdata content => exact congrArg Except.ok joint_addText
  | text raw =>
    rw [Joint.step, Reader.read, Progress.step]
    dsimp only
    cases unescape raw with
    | error fault => rfl
    | ok content => exact congrArg Except.ok joint_addText
  | openTag content empty =>
    rw [Joint.step, Reader.read, Progress.step]
    dsimp only
    cases Tag.attributes content with
    | error fault => rfl
    | ok attributes =>
      cases empty with
      | false => rfl
      | true => exact joint_addElement
  | closeTag content =>
    obtain ⟨frames, root⟩ := p
    cases frames with
    | nil => rfl
    | cons f outer =>
      by_cases same : f.name = String.ofList (Progress.closeName content)
      · have read : Reader.read (Progress.names ⟨f :: outer, root⟩) ⟨.closeTag content, stop⟩ =
            .ok (.stop (String.ofList (Progress.closeName content)), Progress.names ⟨outer, root⟩) := if_pos same
        have closed : Progress.step ⟨f :: outer, root⟩ ⟨.closeTag content, stop⟩ =
            Progress.addElement ⟨outer, root⟩ f.close := if_pos same
        rw [Joint.step, Progress.joint, read, closed]
        exact joint_addElement
      · have read : Reader.read (Progress.names ⟨f :: outer, root⟩) ⟨.closeTag content, stop⟩ =
            .error (.malformed stop (.mismatchedClose f.name (String.ofList (Progress.closeName content)))) :=
          if_neg same
        have rejected : Progress.step ⟨f :: outer, root⟩ ⟨.closeTag content, stop⟩ =
            .error (.malformed stop (.mismatchedClose f.name (String.ofList (Progress.closeName content)))) :=
          if_neg same
        rw [Joint.step, Progress.joint, read, rejected]
        rfl

end step

/-! ## Whole documents -/

section events
variable {tokens : List Located} {opened opened' : List String} {p q : Progress}

/-- Reading and building step by step comes to the same as building alone. -/
lemma foldlM_joint :
    tokens.foldlM Joint.step {} = (Progress.joint <$> tokens.foldlM Progress.step {}).mapError .fault := by
  show tokens.foldlM Joint.step (Progress.joint {}) = _
  exact foldlM_of_step fun p located => step_joint

/-- A document is read and built as it is parsed: the builder rejects nothing for its balance. -/
theorem parseJoint_eq (document : String) : parseJoint document = (parse document).mapError .fault := by
  rw [parseJoint, parse, foldlM_joint]
  cases (lex document.toList).tokens.foldlM Progress.step {} with
  | error fault => rfl
  | ok p =>
    cases (lex document.toList).fault with
    | some found => rfl
    | none => rfl

/-- No fault of a document has this message. -/
lemma message_ne_unbalanced {fault : Fault} : fault.message ≠ "unbalanced closing tag" := by
  apply mt (congrArg String.toList)
  unfold Fault.message
  cases fault with
  | malformed position fault => simp
  | attributes fault =>
    unfold AttributeFault.message
    cases fault <;> simp
  | entity fault =>
    unfold EntityFault.message
    cases fault <;> simp
  | secondRoot => simp
  | unclosed name => simp
  | noRoot => simp

/-- No document is rejected with the wording of an end tag for which no element is open. -/
lemma message_of_parseJoint {document : String} {rejection : Rejection}
    (rejected : parseJoint document = .error rejection) : rejection.message ≠ "unbalanced closing tag" := by
  rw [parseJoint_eq] at rejected
  cases read : parse document with
  | ok root =>
    rw [read] at rejected
    cases rejected
  | error fault =>
    rw [read] at rejected
    cases rejected
    exact message_ne_unbalanced

/-- Where nothing is rejected the reader can read to the end before the builder begins. -/
lemma foldlM_joint_eq_ok_iff :
    tokens.foldlM Joint.step ⟨opened, p⟩ = .ok ⟨opened', q⟩ ↔
      ∃ events, Reader.readAll opened tokens = .ok (events, opened') ∧ events.foldlM Progress.take p = .ok q := by
  induction tokens generalizing opened p with
  | nil =>
    constructor
    · intro done
      cases done
      exact ⟨[], rfl, rfl⟩
    · intro h
      obtain ⟨events, read, built⟩ := h
      cases read
      cases built
      rfl
  | cons located tokens ih =>
    rw [List.foldlM_cons, bind_eq_ok]
    constructor
    · rintro ⟨joint, step, rest⟩
      obtain ⟨event, middle, p', read, taken, rfl⟩ := Joint.step_eq_ok.1 step
      obtain ⟨events, reads, built⟩ := ih.1 rest
      refine ⟨event :: events, Reader.readAll_cons_eq_ok.2 ⟨event, middle, events, read, reads, rfl⟩, ?_⟩
      rw [List.foldlM_cons, taken]
      exact built
    · rintro ⟨events, reads, built⟩
      obtain ⟨event, middle, others, read, rest, rfl⟩ := Reader.readAll_cons_eq_ok.1 reads
      rw [List.foldlM_cons] at built
      obtain ⟨p', taken, built⟩ := bind_eq_ok.1 built
      exact ⟨⟨middle, p'⟩, Joint.step_eq_ok.2 ⟨event, middle, p', read, taken, rfl⟩,
        ih.2 ⟨others, rest, built⟩⟩

/-- Tokens are read into a tree where the reader reads all of them and the builder takes all events. -/
theorem foldlM_step_eq_ok_iff :
    tokens.foldlM Progress.step {} = .ok p ∧ p.names = opened ↔
      ∃ events, Reader.readAll [] tokens = .ok (events, opened) ∧ events.foldlM Progress.take {} = .ok p := by
  rw [← foldlM_joint_eq_ok_iff]
  show _ ↔ tokens.foldlM Joint.step {} = _
  rw [foldlM_joint, mapError_eq_ok, map_eq_ok]
  constructor
  · intro h
    obtain ⟨done, rfl⟩ := h
    exact ⟨p, done, rfl⟩
  · intro h
    obtain ⟨q, done, same⟩ := h
    cases same
    exact ⟨done, rfl⟩

end events

end CapabilityRegistry.Markup
