import CapabilityRegistry.Proofs.Markup.Events
import CapabilityRegistry.Proofs.Markup.RoundTrip

/-!
# Documents that are accepted

A document is accepted exactly if it can be read to its end, all its tags are closed and one element stands
outside of all; it is then the root (`parse_accepts`). Balanced events stand for content in document order
(`Balanced`). What the reader has read at any time are events that leave elements open, with balanced ones behind
each start tag (`LeavesOpen.readAll`), and the builder makes a tree of them as long as at most one whole element
stands outside (`LeavesOpen.built`).
-/

namespace CapabilityRegistry.Markup

/-- Events of whole elements and of text, and the content that they stand for. -/
inductive Balanced : List Event → List Node → Prop where
  | nil : Balanced [] []
  | silent {events : List Event} {nodes : List Node} :
    Balanced events nodes →
    Balanced (.silent :: events) nodes
  | text {content : List Char} {events : List Event} {nodes : List Node} :
    Balanced events nodes →
    Balanced (.text content :: events) (.text (String.ofList content) :: nodes)
  | empty {name : String} {attributes : List (String × String)} {events : List Event} {nodes : List Node} :
    Balanced events nodes →
    Balanced (.empty name attributes :: events) (.element name attributes [] :: nodes)
  | element {name : String} {attributes : List (String × String)} {inner events : List Event}
      {children nodes : List Node} :
    Balanced inner children →
    Balanced events nodes →
    Balanced (.start name attributes :: (inner ++ .stop name :: events))
      (.element name attributes children :: nodes)

/-- Events that leave the elements of these names open, innermost first: behind the start tag of each the events
are balanced. The content is that outside of all open elements. -/
inductive LeavesOpen : List String → List Event → List Node → Prop where
  | none {events : List Event} {nodes : List Node} :
    Balanced events nodes →
    LeavesOpen [] events nodes
  | inside {name : String} {attributes : List (String × String)} {opened : List String}
      {events inner : List Event} {nodes children : List Node} :
    LeavesOpen opened events nodes →
    Balanced inner children →
    LeavesOpen (name :: opened) (events ++ .start name attributes :: inner) nodes

variable {events events' inner : List Event} {nodes nodes' children : List Node} {opened opened' : List String}
  {name : String} {attributes : List (String × String)} {p : Progress}

/-! ## What has been read -/

/-- Balanced events behind each other are balanced, with the content of both. -/
lemma Balanced.append (balanced : Balanced events nodes) (balanced' : Balanced events' nodes') :
    Balanced (events ++ events') (nodes ++ nodes') := by
  induction balanced with
  | nil => exact balanced'
  | silent _ ih => exact .silent ih
  | text _ ih => exact .text ih
  | empty _ ih => exact .empty ih
  | element inner _ _ ih =>
    rw [List.cons_append, List.append_assoc]
    exact .element inner ih

/-- Balanced events behind others leave the same elements open. -/
lemma LeavesOpen.append (leaves : LeavesOpen opened events nodes) (balanced : Balanced events' nodes') :
    ∃ nodes'', LeavesOpen opened (events ++ events') nodes'' := by
  cases leaves with
  | none whole => exact ⟨nodes ++ nodes', .none (whole.append balanced)⟩
  | inside leaves inner =>
    rw [List.append_assoc, List.cons_append]
    exact ⟨nodes, .inside leaves (inner.append balanced)⟩

/-- An end tag makes a whole element of the innermost open one. -/
lemma LeavesOpen.stop (leaves : LeavesOpen (name :: opened) events nodes) :
    ∃ nodes', LeavesOpen opened (events ++ [.stop name]) nodes' := by
  cases leaves with
  | inside leaves inner =>
    rw [List.append_assoc, List.cons_append]
    exact leaves.append (.element inner .nil)

/-- An event that opens or closes an element changes what is left open as it says. -/
lemma LeavesOpen.moves {event : Event} (leaves : LeavesOpen opened events nodes)
    (moves : event.Moves opened opened') : ∃ nodes', LeavesOpen opened' (events ++ [event]) nodes' := by
  cases moves with
  | silent => exact leaves.append (.silent .nil)
  | text => exact leaves.append (.text .nil)
  | empty => exact leaves.append (.empty .nil)
  | start => exact ⟨nodes, .inside leaves .nil⟩
  | stop => exact leaves.stop

/-- What the reader has read leaves open what the reader knows to be open. -/
theorem LeavesOpen.readAll {tokens : List Located} (leaves : LeavesOpen opened events nodes)
    (reads : Reader.readAll opened tokens = .ok (events', opened')) :
    ∃ nodes', LeavesOpen opened' (events ++ events') nodes' := by
  -- Each event goes behind those that were read before it, so it is about the innermost open element.
  induction tokens generalizing opened events nodes events' with
  | nil =>
    cases reads
    rw [List.append_nil]
    exact ⟨nodes, leaves⟩
  | cons located tokens ih =>
    obtain ⟨event, middle, others, read, rest, rfl⟩ := Reader.readAll_cons_eq_ok.1 reads
    obtain ⟨nodes', leaves⟩ := leaves.moves (Reader.moves read)
    rw [← List.singleton_append, ← List.append_assoc]
    exact ih leaves rest

/-! ## What is built from it -/

/-- The events put this content behind what has been built, wherever that may be. -/
def Builds (events : List Event) (nodes : List Node) : Prop :=
  ∀ p, events.foldlM Progress.take p = (nodes.foldlM Progress.add p).mapError .fault

/-- Inside an element all content is taken. -/
lemma foldlM_add_frame {f : Frame} {outer : List Frame} {root : Option Element} :
    children.foldlM Progress.add ⟨f :: outer, root⟩ =
      .ok ⟨{ f with content := children.reverse ++ f.content } :: outer, root⟩ := by
  induction children generalizing f with
  | nil => rfl
  | cons n children ih =>
    rw [List.foldlM_cons, add_frame, List.reverse_cons, List.append_assoc]
    exact ih

/-- The content behind a start tag stays inside its element. -/
lemma Builds.start (builds : Builds inner children) :
    (.start name attributes :: inner).foldlM Progress.take p =
      .ok ⟨⟨name, attributes, children.reverse⟩ :: p.frames, p.root⟩ := by
  show inner.foldlM Progress.take ⟨⟨name, attributes, []⟩ :: p.frames, p.root⟩ = _
  rw [builds, foldlM_add_frame, List.append_nil]
  rfl

/-- Balanced events build the content that they stand for. -/
theorem Balanced.builds (balanced : Balanced events nodes) : Builds events nodes := by
  intro p
  induction balanced generalizing p with
  | nil => rfl
  | silent _ ih => exact ih p
  | @text content events nodes _ ih =>
    rw [List.foldlM_cons, List.foldlM_cons, Progress.take, Progress.add, String.toList_ofList]
    exact ih (p.addText content)
  | @empty name attributes events nodes _ ih =>
    rw [List.foldlM_cons, List.foldlM_cons, Progress.take, Progress.add]
    cases p.addElement ⟨name, attributes, []⟩ with
    | error fault => rfl
    | ok q => exact ih q
  | @element name attributes inner events children nodes _ _ inside ih =>
    have closed : Progress.take ⟨⟨name, attributes, children.reverse⟩ :: p.frames, p.root⟩ (.stop name) =
        (p.addElement ⟨name, attributes, children⟩).mapError .fault := by
      show (p.addElement ⟨name, attributes, children.reverse.reverse⟩).mapError Rejection.fault = _
      rw [List.reverse_reverse]
    -- The frame of the start tag holds the children in reverse until the end tag turns them round.
    rw [← List.cons_append, List.foldlM_append, Builds.start inside]
    show List.foldlM Progress.take _ (.stop name :: events) = _
    rw [List.foldlM_cons, List.foldlM_cons, closed, Progress.add]
    cases p.addElement ⟨name, attributes, children⟩ with
    | error fault => rfl
    | ok q => exact ih q

/-- Outside of all elements there is room for one. -/
lemma foldlM_add_eq_ok_iff {root : Option Element} :
    nodes.foldlM Progress.add ⟨[], root⟩ = .ok p ↔
      p.frames = [] ∧ root.toList ++ nodes.filterMap Node.element? = p.root.toList := by
  induction nodes generalizing root with
  | nil =>
    constructor
    · intro done
      cases done
      exact ⟨rfl, List.append_nil _⟩
    · obtain ⟨frames, root'⟩ := p
      rintro ⟨rfl, same⟩
      cases root with
      | none => cases root' with
        | none => rfl
        | some e => cases same
      | some e => cases root' with
        | none => cases same
        | some e' =>
          cases same
          rfl
  | cons node nodes ih =>
    cases node with
    | text content => exact ih
    | element name attributes children =>
      cases root with
      | none => exact ih
      | some e =>
        constructor
        · exact nofun
        · obtain ⟨frames, root'⟩ := p
          rintro ⟨-, same⟩
          cases root' with
          | none => cases same
          | some e' => cases same

/-- What is built of events that leave elements open has as its root the one whole element outside of them. -/
theorem LeavesOpen.built {root : Option Element} (leaves : LeavesOpen opened events nodes) :
    (∃ p, events.foldlM Progress.take {} = .ok p ∧ p.root = root) ↔
      nodes.filterMap Node.element? = root.toList := by
  induction leaves with
  | @none events nodes whole =>
    rw [whole.builds {}]
    constructor
    · rintro ⟨p, built, rfl⟩
      exact (foldlM_add_eq_ok_iff.1 (mapError_eq_ok.1 built)).2
    · intro outside
      exact ⟨⟨[], root⟩, mapError_eq_ok.2 (foldlM_add_eq_ok_iff.2 ⟨rfl, outside⟩), rfl⟩
  | @inside name attributes _ _ _ _ children _ inner ih =>
    rw [← ih]
    constructor
    · rintro ⟨p, built, rfl⟩
      rw [List.foldlM_append] at built
      obtain ⟨q, before, built⟩ := bind_eq_ok.1 built
      rw [inner.builds.start] at built
      cases built
      exact ⟨q, before, rfl⟩
    · rintro ⟨q, before, rfl⟩
      refine ⟨⟨⟨name, attributes, children.reverse⟩ :: q.frames, q.root⟩, ?_, rfl⟩
      rw [List.foldlM_append]
      exact bind_eq_ok.2 ⟨q, before, inner.builds.start⟩

/-- A list is an optional item where it has one item at most. -/
lemma exists_toList_iff {l : List Element} : (∃ root : Option Element, l = root.toList) ↔ l.length ≤ 1 := by
  constructor
  · rintro ⟨root, rfl⟩
    exact Option.length_toList_le
  · intro short
    match l, short with
    | [], _ => exact ⟨none, rfl⟩
    | [e], _ => exact ⟨some e, rfl⟩

/-! ## Where a document ends too early -/

/-- Reading attributes does not find that an element is left open. -/
lemma attributesFrom_ne_unclosed {position : Nat} {seen : List (List Char × Nat)} {content : List Char} :
    Tag.attributesFrom position seen content ≠ .error (.unclosed name) := by
  intro failed
  fun_induction Tag.attributesFrom position seen content
  case case7 ih =>
    obtain failed | ⟨_, _, failed⟩ := bind_eq_error.1 failed
    · exact ih failed
    · cases failed
  all_goals cases failed

/-- Adding an element does not find that one is left open. -/
lemma addElement_ne_unclosed {e : Element} : p.addElement e ≠ .error (.unclosed name) := by
  intro failed
  rw [Progress.addElement] at failed
  split at failed
  next => cases failed
  next =>
    split at failed
    next => cases failed
    next => cases failed

/-- No token is the end of a document. -/
lemma step_ne_unclosed {located : Located} : p.step located ≠ .error (.unclosed name) := by
  obtain ⟨token, stop⟩ := located
  intro failed
  cases token with
  | ignored => cases failed
  | cdata content => cases failed
  | text raw =>
    rw [Progress.step] at failed
    dsimp only at failed
    split at failed
    next => cases failed
    next => cases failed
  | openTag content empty =>
    obtain failed | ⟨attributes, _, failed⟩ := bind_eq_error.1 failed
    · exact attributesFrom_ne_unclosed failed
    · cases empty with
      | true => exact addElement_ne_unclosed failed
      | false => cases failed
  | closeTag content =>
    rw [Progress.step] at failed
    dsimp only at failed
    rw [Progress.closeElement] at failed
    split at failed
    next => cases failed
    next f outer _ =>
      split at failed
      next => exact addElement_ne_unclosed failed
      next => cases failed

/-- No step before the end finds that an element is left open. -/
lemma foldlM_step_ne_unclosed {tokens : List Located} :
    tokens.foldlM Progress.step p ≠ .error (.unclosed name) := by
  induction tokens generalizing p with
  | nil => exact nofun
  | cons located tokens ih =>
    intro failed
    rw [List.foldlM_cons] at failed
    obtain failed | ⟨q, _, failed⟩ := bind_eq_error.1 failed
    · exact step_ne_unclosed failed
    · exact ih failed

/-! ## Whole documents -/

/-- The document has been read to its end. -/
def ReadTo (document : String) (p : Progress) : Prop :=
  (lex document.toList).fault = none ∧ (lex document.toList).tokens.foldlM Progress.step {} = .ok p

/-- The reader reads the document to its end, with these events and with the elements of these names open. -/
def Delivers (document : String) (events : List Event) (opened : List String) : Prop :=
  (lex document.toList).fault = none ∧
    Reader.readAll [] (lex document.toList).tokens = .ok (events, opened)

section document
variable {document : String} {root : Element}

/-- What a document that is read to its end gives is decided by what is open then. -/
lemma ReadTo.parse_eq (read : ReadTo document p) : parse document = p.finish := by
  rw [parse, read.1, read.2]
  rfl

/-- A document is read to its end, or it has a fault that is not its end. -/
lemma readTo_or_error (document : String) :
    (∃ p, ReadTo document p) ∨ ∃ fault, parse document = .error fault ∧ ∀ name, fault ≠ .unclosed name := by
  cases built : (lex document.toList).tokens.foldlM Progress.step {} with
  | error fault =>
    refine .inr ⟨fault, ?_, ?_⟩
    · rw [parse, built]
      rfl
    · rintro name rfl
      exact foldlM_step_ne_unclosed built
  | ok p =>
    cases sound : (lex document.toList).fault with
    | none => exact .inl ⟨p, sound, built⟩
    | some found =>
      refine .inr ⟨.malformed found.1 found.2, ?_, ?_⟩
      · rw [parse, built, sound]
        rfl
      · intro name same
        cases same

/-- At the end there is a root where one has been built and no element is open. -/
lemma finish_eq_ok_iff : p.finish = .ok root ↔ p = ⟨[], some root⟩ := by
  obtain ⟨frames, found⟩ := p
  constructor
  · intro done
    cases frames with
    | cons f outer => cases done
    | nil => cases found with
      | none => cases done
      | some e =>
        cases done
        rfl
  · rintro ⟨⟩
    rfl

/-- The innermost open element is the one that is told. -/
lemma finish_eq_unclosed_iff : p.finish = .error (.unclosed name) ↔ ∃ outer, p.names = name :: outer := by
  obtain ⟨frames, found⟩ := p
  cases frames with
  | cons f outer =>
    constructor
    · intro failed
      cases failed
      exact ⟨outer.map Frame.name, rfl⟩
    · rintro ⟨outer', same⟩
      cases same
      rfl
  | nil =>
    constructor
    · intro failed
      cases found with
      | none => cases failed
      | some e => cases failed
    · exact nofun

/-- A document gives a root where it is read to the end with that root alone. -/
lemma parse_eq_ok_iff : parse document = .ok root ↔ ReadTo document ⟨[], some root⟩ := by
  constructor
  · intro done
    obtain ⟨p, read⟩ | ⟨fault, failed, _⟩ := readTo_or_error document
    · rw [read.parse_eq, finish_eq_ok_iff] at done
      rwa [done] at read
    · cases done.symm.trans failed
  · exact fun read => read.parse_eq

/-- An element is left open where the document is read to the end with it open innermost. -/
lemma parse_eq_unclosed_iff :
    parse document = .error (.unclosed name) ↔ ∃ p outer, ReadTo document p ∧ p.names = name :: outer := by
  constructor
  · intro early
    obtain ⟨p, read⟩ | ⟨fault, failed, other⟩ := readTo_or_error document
    · rw [read.parse_eq, finish_eq_unclosed_iff] at early
      obtain ⟨outer, names⟩ := early
      exact ⟨p, outer, read, names⟩
    · cases early.symm.trans failed
      exact (other name rfl).elim
  · rintro ⟨p, outer, read, names⟩
    rw [read.parse_eq, finish_eq_unclosed_iff]
    exact ⟨outer, names⟩

/-- A document is read to its end where the reader delivers it and the builder takes all events. -/
lemma readTo_iff :
    ReadTo document p ∧ p.names = opened ↔
      ∃ events, Delivers document events opened ∧ events.foldlM Progress.take {} = .ok p := by
  rw [ReadTo, and_assoc, foldlM_step_eq_ok_iff]
  constructor
  · rintro ⟨sound, events, reads, built⟩
    exact ⟨events, ⟨sound, reads⟩, built⟩
  · rintro ⟨events, ⟨sound, reads⟩, built⟩
    exact ⟨sound, events, reads, built⟩

/-- What is delivered leaves open what is open at the end of the document. -/
lemma Delivers.leavesOpen (delivers : Delivers document events opened) :
    ∃ nodes, LeavesOpen opened events nodes :=
  LeavesOpen.readAll (.none .nil) delivers.2

/-- A document that ends with these elements open has been read with at most one whole element outside of them. -/
lemma exists_readTo_iff {root? : Option Element} :
    (∃ p, ReadTo document p ∧ p.root = root? ∧ p.names = opened) ↔
      ∃ events nodes, Delivers document events opened ∧ LeavesOpen opened events nodes ∧
        nodes.filterMap Node.element? = root?.toList := by
  constructor
  · rintro ⟨p, read, rfl, names⟩
    obtain ⟨events, delivers, built⟩ := readTo_iff.1 ⟨read, names⟩
    obtain ⟨nodes, leaves⟩ := delivers.leavesOpen
    exact ⟨events, nodes, delivers, leaves, leaves.built.1 ⟨p, built, rfl⟩⟩
  · rintro ⟨events, nodes, delivers, leaves, outside⟩
    obtain ⟨p, built, root⟩ := leaves.built.2 outside
    obtain ⟨read, names⟩ := readTo_iff.2 ⟨events, delivers, built⟩
    exact ⟨p, read, root, names⟩

/-- Events that leave no element open are balanced. -/
lemma leavesOpen_nil_iff : LeavesOpen [] events nodes ↔ Balanced events nodes := by
  constructor
  · intro leaves
    cases leaves with
    | none whole => exact whole
  · exact .none

/-- A document is accepted with `root` exactly if the reader reads it to its end, all tags are closed, and `root` is
the one element outside of all. The builder never sees an end tag without an element, and a document that ends too
early is rejected with the name of the innermost element that is open. -/
theorem parse_accepts (document : String) :
    (∀ root, parse document = .ok root ↔
      ∃ events nodes, Delivers document events [] ∧ Balanced events nodes ∧
        nodes.filterMap Node.element? = [root]) ∧
    parseJoint document = (parse document).mapError .fault ∧
    (∀ rejection, parseJoint document = .error rejection → rejection.message ≠ "unbalanced closing tag") ∧
    ∀ name, parse document = .error (.unclosed name) ↔
      ∃ events nodes outer, Delivers document events (name :: outer) ∧ LeavesOpen (name :: outer) events nodes ∧
        (nodes.filterMap Node.element?).length ≤ 1 := by
  refine ⟨fun root => ?accepted, parseJoint_eq document, fun rejection => message_of_parseJoint, fun name => ?early⟩
  case accepted =>
    rw [parse_eq_ok_iff]
    constructor
    · intro read
      obtain ⟨events, nodes, delivers, leaves, outside⟩ := exists_readTo_iff.1 ⟨_, read, rfl, rfl⟩
      exact ⟨events, nodes, delivers, leavesOpen_nil_iff.1 leaves, outside⟩
    · rintro ⟨events, nodes, delivers, balanced, outside⟩
      have single : nodes.filterMap Node.element? = (some root).toList := outside
      obtain ⟨⟨frames, found⟩, read, rfl, names⟩ :=
        exists_readTo_iff.2 ⟨events, nodes, delivers, .none balanced, single⟩
      obtain rfl : frames = [] := List.map_eq_nil_iff.1 names
      exact read
  case early =>
    rw [parse_eq_unclosed_iff]
    constructor
    · rintro ⟨p, outer, read, names⟩
      obtain ⟨events, nodes, delivers, leaves, outside⟩ := exists_readTo_iff.1 ⟨p, read, rfl, names⟩
      exact ⟨events, nodes, outer, delivers, leaves, exists_toList_iff.1 ⟨p.root, outside⟩⟩
    · rintro ⟨events, nodes, outer, delivers, leaves, few⟩
      obtain ⟨root?, outside⟩ := exists_toList_iff.2 few
      obtain ⟨p, read, _, names⟩ := exists_readTo_iff.2 ⟨events, nodes, delivers, leaves, outside⟩
      exact ⟨p, outer, read, names⟩

/-- Nothing remains of a declaration, of comments and of text outside the root. -/
example : parse "<?xml version='1.0'?> <types>a<!-- b --><type name='c'/><![CDATA[<]]></types>\n<!-- d -->" =
    .ok ⟨"types", [], [.text "a", .element "type" [("name", "c")] [], .text "<"]⟩ := by cbv

/-- A second root does not count before its end tag. -/
example : parse "<types/><enums><enum>" = .error (.unclosed "enum") := by cbv

end document

end CapabilityRegistry.Markup
