import CapabilityRegistry.Markup.Document
import CapabilityRegistry.Proofs.Markup.Tag
import Mathlib.Data.List.Chain

/-!
# Reading what was written

A document is read in single tokens. `Reads p q cs rest` says that in front of `rest` the characters `cs`
lead from one state of the reading to another; runs of text, start tags and end tags do so, and from them
every plain tree (`Node.Plain.reads`). Hence a document that was written is read as the tree it was written
from (`parse_print`).
-/

namespace CapabilityRegistry.Markup

/-- A tree that markup can hold: names and keys are plain, no key comes twice, and runs of text are neither
empty nor side by side. -/
inductive Node.Plain : Node → Prop where
  | text {content : String} :
    content ≠ "" →
    Plain (.text content)
  | element {name : String} {attributes : List (String × String)} {children : List Node} :
    PlainName name →
    (∀ a ∈ attributes, PlainName a.1) →
    (attributes.map (·.1)).Nodup →
    (∀ child ∈ children, child.Plain) →
    children.IsChain (fun a b => ¬(a.isText = true ∧ b.isText = true)) →
    Plain (.element name attributes children)

/-! ## Tokens -/

section tokens
variable {position : Nat} {done : List Located} {body content raw rest : List Char} {token : Token}
  {kind : MarkupKind}

/-- Markup that is cut off gives its token, and lexing goes on behind it. -/
lemma lexFrom_markup (ofBody : MarkupKind.ofBody? body = some kind)
    (cut : kind.cut body = some (content, rest)) (made : kind.token content = .ok token) :
    ∃ position', lexFrom position done ('<' :: body) =
      lexFrom position' (⟨token, position'⟩ :: done) rest := by
  rw [lexFrom]
  dsimp only
  rw [ofBody]
  dsimp only
  split
  next endless => cases endless.symm.trans cut
  next content' rest' cut' =>
    cases cut'.symm.trans cut
    rw [made]
    exact ⟨_, rfl⟩

/-- Text up to the next markup gives one token. -/
lemma lexFrom_text (nonempty : raw ≠ []) (inside : '<' ∉ raw) (stop : ∀ c ∈ rest.head?, c = '<') :
    ∃ position', lexFrom position done (raw ++ rest) =
      lexFrom position' (⟨.text raw, position'⟩ :: done) rest := by
  cases raw with
  | nil => exact (nonempty rfl).elim
  | cons c cs =>
    have other : c ≠ '<' := fun e => inside (e ▸ List.mem_cons_self)
    have others : ∀ d ∈ cs, decide (d ≠ '<') = true :=
      fun d mem => decide_eq_true fun e => inside (e ▸ List.mem_cons_of_mem c mem)
    have run : (cs ++ rest).takeWhile (· ≠ '<') = cs ∧ (cs ++ rest).dropWhile (· ≠ '<') = rest := by
      rw [List.takeWhile_append_of_pos others, List.dropWhile_append_of_pos others]
      cases rest with
      | nil => exact ⟨List.append_nil cs, rfl⟩
      | cons d rest =>
        obtain rfl := stop d rfl
        exact ⟨List.append_nil cs, rfl⟩
    rw [List.cons_append, lexFrom]
    · rw [run.1, run.2]
      exact ⟨_, rfl⟩
    · exact other

end tokens

/-! ## States of a reading -/

/-- The tokens `done`, the last one first, lead to a state. -/
def Reached (done : List Located) (p : Progress) : Prop :=
  done.reverse.foldlM Progress.step {} = .ok p

/-- A step leads from one state to the next. -/
lemma Reached.step {done : List Located} {located : Located} {p q : Progress} (reached : Reached done p)
    (step : p.step located = .ok q) : Reached (located :: done) q := by
  rw [Reached, List.reverse_cons, List.foldlM_append, reached]
  show List.foldlM Progress.step p [located] = .ok q
  rw [List.foldlM_cons, step]
  rfl

/-- In front of `rest` the characters lead from one state to another. -/
def Reads (p q : Progress) (cs rest : List Char) : Prop :=
  ∀ position done, Reached done p →
    ∃ position' done', lexFrom position done (cs ++ rest) = lexFrom position' done' rest ∧ Reached done' q

/-- Reading no characters changes nothing. -/
lemma Reads.refl {p : Progress} {rest : List Char} : Reads p p [] rest :=
  fun position done reached => ⟨position, done, rfl, reached⟩

/-- Characters in sequence lead through the state between them. -/
lemma Reads.trans {p q r : Progress} {cs ds rest : List Char} (h : Reads p q cs (ds ++ rest))
    (h' : Reads q r ds rest) : Reads p r (cs ++ ds) rest := by
  intro position done reached
  obtain ⟨position', done', lexed, reached'⟩ := h position done reached
  obtain ⟨position'', done'', lexed', reached''⟩ := h' position' done' reached'
  rw [List.append_assoc]
  exact ⟨position'', done'', lexed.trans lexed', reached''⟩

/-- A token leads from one state to another wherever it ends. -/
lemma Reads.of_token {p q : Progress} {cs rest : List Char} (token : Token)
    (lexed : ∀ position done, ∃ position', lexFrom position done (cs ++ rest) =
      lexFrom position' (⟨token, position'⟩ :: done) rest)
    (step : ∀ stop, p.step ⟨token, stop⟩ = .ok q) : Reads p q cs rest := by
  intro position done reached
  obtain ⟨position', lexed⟩ := lexed position done
  exact ⟨position', _, lexed, reached.step (step position')⟩

section reads
variable {p q : Progress} {name : String} {attributes : List (String × String)} {rest : List Char}

/-- Escaped text adds the text to what is open. -/
lemma reads_text {content : String} (nonempty : content ≠ "") (stop : ∀ c ∈ rest.head?, c = '<') :
    Reads p (p.addText content.toList) (escape content.toList) rest := by
  have written : escape content.toList ≠ [] :=
    escape_ne_nil fun e => nonempty (String.toList_eq_nil_iff.1 e)
  have inside : '<' ∉ escape content.toList := fun mem => (plain_of_mem_escape mem).1 rfl
  refine Reads.of_token (.text _) (fun _ _ => lexFrom_text written inside stop) fun position => ?_
  rw [Progress.step]
  dsimp only
  rw [unescape_escape]

/-- A start tag opens an element with its attributes. -/
lemma reads_startTag (named : PlainName name) (keys : ∀ a ∈ attributes, PlainName a.1)
    (nodup : (attributes.map (·.1)).Nodup) :
    Reads p { p with frames := ⟨name, attributes, []⟩ :: p.frames }
      ('<' :: startTag name attributes ++ ['>']) rest := by
  have made : MarkupKind.token .tag (startTag name attributes) =
      .ok (.openTag (startTag name attributes) false) := congrArg Except.ok (tagToken_startTag named)
  refine Reads.of_token (.openTag (startTag name attributes) false) (fun position done => ?_) fun position => ?_
  · rw [List.append_assoc]
    exact lexFrom_markup (ofBody?_startTag named) (cut_of_passes (Passes.startTag named keys)) made
  · rw [Progress.step]
    dsimp only
    rw [attributes_startTag named keys nodup, name_startTag named, String.ofList_toList]
    rfl

/-- The name in an end tag is read as it is written. -/
lemma closeName_of_plain (named : PlainName name) : Progress.closeName name.toList = name.toList := by
  rw [Progress.closeName]
  split
  next => rfl
  next =>
    rw [Text.dropEndWhile]
    cases reversed : name.toList.reverse with
    | nil => exact (List.reverse_eq_nil_iff.1 reversed).symm
    | cons c cs =>
      have mem : c ∈ name.toList := List.mem_reverse.1 (reversed ▸ List.mem_cons_self)
      have solid := Bool.eq_false_iff.1 (not_isSpace_of_plain (named.plain c mem))
      rw [List.dropWhile_cons_of_neg solid, ← reversed, List.reverse_reverse]

/-- The end tag of an element completes it. -/
lemma reads_endTag {children : List Node} {outer : List Frame} {root : Option Element}
    (named : PlainName name)
    (added : Progress.addElement ⟨outer, root⟩ ⟨name, attributes, children⟩ = .ok q) :
    Reads ⟨⟨name, attributes, children.reverse⟩ :: outer, root⟩ q ("</".toList ++ name.toList ++ ['>'])
      rest := by
  have passes : Passes ('/' :: name.toList) :=
    (Passes.character (by decide) (by decide) (by decide)).append (Passes.plain named.plain)
  refine Reads.of_token (.closeTag name.toList) (fun position done => ?_) fun position => ?_
  · rw [List.append_assoc]
    exact lexFrom_markup rfl (cut_of_passes passes) rfl
  · rw [Progress.step]
    dsimp only
    rw [closeName_of_plain named, String.ofList_toList, Progress.closeElement]
    dsimp only
    rw [if_pos rfl, Frame.close, List.reverse_reverse]
    exact added

end reads

/-! ## Trees -/

/-- Puts a piece of content behind what has been read. -/
def Progress.add (p : Progress) : Node → Except Fault Progress
  | .text content => .ok (p.addText content.toList)
  | .element name attributes children => p.addElement ⟨name, attributes, children⟩

/-- A piece of content is read wherever it may stand: a run of text ends at a tag. -/
def Node.Reads (n : Node) : Prop :=
  ∀ p q rest, p.add n = .ok q → (n.isText = true → ∀ c ∈ rest.head?, c = '<') →
    Markup.Reads p q n.print rest

/-- A node is added to the innermost open element. -/
lemma add_frame {f : Frame} {outer : List Frame} {root : Option Element} (n : Node) :
    Progress.add ⟨f :: outer, root⟩ n = .ok ⟨{ f with content := n :: f.content } :: outer, root⟩ := by
  cases n with
  | text content =>
    rw [Progress.add, Progress.addText, String.ofList_toList]
  | element => rfl

/-- What comes behind a run of text starts with a tag. -/
lemma head_printAll {n : Node} {children : List Node} {rest : List Char}
    (apart : (n :: children).IsChain fun a b => ¬(a.isText = true ∧ b.isText = true))
    (text : n.isText = true) (stop : ∀ c ∈ rest.head?, c = '<') :
    ∀ c ∈ (Node.printAll children ++ rest).head?, c = '<' := by
  cases children with
  | nil => exact stop
  | cons m children =>
    cases m with
    | text content => exact ((List.isChain_cons_cons.1 apart).1 ⟨text, rfl⟩).elim
    | element =>
      intro c mem
      cases mem
      rfl

/-- Printed children are added to the element that is open, in their order. -/
lemma reads_printAll {children : List Node} {f : Frame} {outer : List Frame} {root : Option Element}
    {rest : List Char} (each : ∀ child ∈ children, child.Reads)
    (apart : children.IsChain fun a b => ¬(a.isText = true ∧ b.isText = true))
    (stop : ∀ c ∈ rest.head?, c = '<') :
    Reads ⟨f :: outer, root⟩ ⟨{ f with content := children.reverse ++ f.content } :: outer, root⟩
      (Node.printAll children) rest := by
  induction children generalizing f with
  | nil => exact Reads.refl
  | cons n children ih =>
    obtain ⟨head, tail⟩ := List.forall_mem_cons.1 each
    have first := head ⟨f :: outer, root⟩ _ (Node.printAll children ++ rest) (add_frame n)
      fun text => head_printAll apart text stop
    rw [List.reverse_cons, List.append_assoc]
    exact first.trans (ih tail apart.tail)

/-- A plain tree that was written is read back. -/
theorem Node.Plain.reads {n : Node} (plain : n.Plain) : n.Reads := by
  induction plain with
  | text nonempty =>
    intro p q rest added stop
    cases added
    exact reads_text nonempty (stop rfl)
  | @element name attributes children named keys nodup _ apart ih =>
    intro p q rest added _
    have stop : ∀ c ∈ ("</".toList ++ name.toList ++ ['>'] ++ rest).head?, c = '<' := by
      intro c mem
      cases mem
      rfl
    have content : Markup.Reads ⟨⟨name, attributes, []⟩ :: p.frames, p.root⟩
        ⟨⟨name, attributes, children.reverse ++ []⟩ :: p.frames, p.root⟩ (Node.printAll children)
        ("</".toList ++ name.toList ++ ['>'] ++ rest) := reads_printAll ih apart stop
    rw [List.append_nil] at content
    have written : (Node.element name attributes children).print =
        ('<' :: startTag name attributes ++ ['>']) ++
          (Node.printAll children ++ ("</".toList ++ name.toList ++ ['>'])) := by
      simp [Node.print, startTag]
    rw [written]
    exact (reads_startTag named keys nodup).trans (content.trans (reads_endTag named added))

/-- A document that was written is read as the tree that it was written from. -/
theorem parse_print (e : Element) (plain : e.toNode.Plain) : parse e.print = .ok e := by
  have start : Reached [] {} := rfl
  obtain ⟨position, done, lexed, reached⟩ :=
    plain.reads {} ⟨[], some e⟩ [] rfl (fun text => nomatch text) 0 [] start
  have tokens : lex e.print.toList = ⟨done.reverse, none⟩ := by
    rw [Element.print, String.toList_ofList]
    have first : lex e.toNode.print = lexFrom 0 [] e.toNode.print := rfl
    rw [List.append_nil] at lexed
    rw [first, lexed, lexFrom]
  have read : done.reverse.foldlM Progress.step {} = .ok ⟨[], some e⟩ := reached
  rw [parse, tokens]
  dsimp only
  rw [read]
  rfl

/-- A tree with texts and values that look like markup. -/
def lookalike : Element :=
  ⟨"member", [("len", "a < b && \"c\""), ("note", "")],
    [.text "&lt; 'x' ]]>\n", .element "type" [] [.text "ß"], .element "type" [("n", "'>'")] []]⟩

/-- The example is a plain tree, for all that looks like markup in it. -/
lemma plain_lookalike : lookalike.toNode.Plain := by
  refine .element (by decide) (by decide) (by decide) ?_ (by decide)
  refine List.forall_mem_cons.2 ⟨.text (by decide), List.forall_mem_cons.2 ⟨?_, List.forall_mem_singleton.2 ?_⟩⟩
  · exact .element (by decide) nofun .nil (List.forall_mem_singleton.2 (.text (by decide))) (by decide)
  · exact .element (by decide) (by decide) (by decide) nofun .nil

/-- Text that looks like markup is read back as text. -/
theorem parse_print_lookalike : lookalike.toNode.Plain ∧ parse lookalike.print = .ok lookalike :=
  ⟨plain_lookalike, parse_print lookalike plain_lookalike⟩

end CapabilityRegistry.Markup
