import CapabilityRegistry.Proofs.Closure.Order
import CapabilityRegistry.Proofs.Loop
import Mathlib.Data.List.Forall2

/-!
# The recursion over struct members

The walk that computes the closure as a loop over the calls that are left to make, with a mark for each struct that
has been entered. Nothing in a turn bounds the calls. Where the alias declarations behind the members that are
followed come back to a name at most from that name itself, the loop takes the steps of the descent
(`Descends.turns`), so that it finishes with the closure or with a struct that contains itself (`walk_finishes`). With
any other cycle of aliases it goes on for ever (`dom_loop_iff`).
-/

namespace CapabilityRegistry.Closure
open Relation

/-- How far the members of a struct have been followed. -/
inductive Mark where
  | visiting
  | done
  deriving DecidableEq

/-- What is left to do. -/
inductive Call where
  /-- Enters a struct, unless it has a mark. -/
  | visit (name : String)
  /-- Follows the type of a member, under a name that stands for it. -/
  | follow (m : Member) (typeName : String)
  /-- Lists a struct, behind its members. -/
  | leave (name : String)

/-- The walk between two calls. -/
structure Walker where
  survey : Survey := {}
  /-- The marks that were set, the last one first. -/
  marks : List (String × Mark) := []
  /-- The calls that are left, the next one first. -/
  calls : List Call

namespace Walker

/-- The structs that have been entered, the last one first. -/
def entered (w : Walker) : List String :=
  (w.marks.filter (·.2 = .visiting)).map (·.1)

/-- Enters a struct that has no mark yet. -/
def visit (reg : Registry) (w : Walker) (name : String) : Walker :=
  match w.marks.lookup name with
  | some _ => w
  | none =>
    match reg.structDecl? name with
    | none => w
    | some d =>
      { w with
        marks := (name, .visiting) :: w.marks
        calls := d.members.map (fun m => .follow m m.typeName) ++ .leave name :: w.calls }

/-- Follows a type name: an alias to what it stands for, unless that is itself, and a struct into its members. -/
def follow (reg : Registry) (w : Walker) (m : Member) (typeName : String) : Except String Walker :=
  let w := { w with survey := w.survey.note reg typeName }
  match reg.classify typeName with
  | .declared .aliased =>
    match reg.aliasStep? typeName with
    | some target => if target = typeName then .ok w else .ok { w with calls := .follow m target :: w.calls }
    | none => .ok w
  | .declared .struct =>
    match w.marks.lookup typeName with
    | some .done => .ok w
    | some .visiting => if m.isPointer then .ok w else .error typeName
    | none => .ok { w with calls := .visit typeName :: w.calls }
  | _ => .ok w

/-- Lists a struct whose members have been followed. -/
def leave (w : Walker) (name : String) : Walker :=
  { w with survey := w.survey.emit name, marks := (name, .done) :: w.marks }

end Walker

/-- A turn of the walk makes the next call. It returns when none is left, or at a cycle. -/
def turn (reg : Registry) (w : Walker) : Except String DependencyClosure ⊕ Walker :=
  match w.calls with
  | [] => .inl (.ok w.survey.toClosure)
  | .visit name :: calls => .inr ({ w with calls }.visit reg name)
  | .follow m typeName :: calls =>
    match { w with calls }.follow reg m typeName with
    | .ok w => .inr w
    | .error name => .inl (.error name)
  | .leave name :: calls => .inr ({ w with calls }.leave name)

/-- The walk before its first turn: the structs from which it starts are to be visited. -/
def start (reg : Registry) (disabled : DisabledSet) (rules : Rules) : Walker where
  calls := (roots reg disabled rules).map .visit

/-- Whatever member is followed, the aliases behind its type come back only from a name to itself. -/
def SelfAliases (reg : Registry) (w : Walker) : Prop :=
  ∀ w' m calls, Turns (turn reg) w w' → w'.calls = .follow m m.typeName :: calls →
    Walk.Straight reg.aliasStep? m.typeName

variable {reg : Registry} {s : Survey} {marks : List (String × Mark)} {calls : List Call} {m : Member}

/-- Along the walk no other aliases are met than were to be met at the start. -/
lemma SelfAliases.of_turns {w w' : Walker} (selfAliases : SelfAliases reg w) (go : Turns (turn reg) w w') :
    SelfAliases reg w' :=
  fun _ _ _ go' => selfAliases _ _ _ (go.trans go')

/-! ## Structs are entered once -/

/-- A visit enters no struct that has been entered. -/
lemma nodup_entered_visit {w : Walker} {name : String} (nodup : w.entered.Nodup) :
    (w.visit reg name).entered.Nodup := by
  unfold Walker.visit
  split
  next => exact nodup
  next new =>
    split
    next => exact nodup
    next =>
      have new' : name ∉ w.entered := by
        intro mem
        obtain ⟨entry, kept, rfl⟩ := List.mem_map.1 mem
        have differ := List.lookup_eq_none_iff.1 new entry (List.mem_filter.1 kept).1
        exact bne_iff_ne.1 differ rfl
      exact List.nodup_cons.2 ⟨new', nodup⟩

/-- To follow a type name enters nothing. -/
lemma entered_follow {w w' : Walker} {typeName : String} (goes : w.follow reg m typeName = .ok w') :
    w'.entered = w.entered := by
  unfold Walker.follow at goes
  grind [Walker.entered]

/-- No turn enters a struct again. -/
lemma nodup_entered_of_turn {w w' : Walker} (goes : turn reg w = .inr w') (nodup : w.entered.Nodup) :
    w'.entered.Nodup := by
  unfold turn at goes
  split at goes
  next => cases goes
  next =>
    cases goes
    exact nodup_entered_visit nodup
  next =>
    split at goes
    next w'' goes' =>
      cases goes
      rw [entered_follow goes']
      exact nodup
    next => cases goes
  next =>
    cases goes
    exact nodup

/-- No struct is entered twice. -/
lemma nodup_entered_of_turns {w w' : Walker} (go : Turns (turn reg) w w') (nodup : w.entered.Nodup) :
    w'.entered.Nodup := by
  induction go with
  | refl => exact nodup
  | tail _ goes ih => exact nodup_entered_of_turn goes ih

/-! ## Marks -/

/-- Listed structs are done, those on the path are being visited, and no other struct has a mark. -/
def Marked (path order : List String) (marks : List (String × Mark)) : Prop :=
  ∀ name, marks.lookup name =
    if name ∈ order then some .done else if name ∈ path then some .visiting else none

/-- At the start no struct has a mark. -/
lemma Marked.nil : Marked [] [] [] :=
  fun _ => rfl

variable {path order : List String} {v : String}

/-- A struct that is entered is marked as being visited. -/
lemma Marked.enter (marked : Marked path order marks) (new : v ∉ order) :
    Marked (v :: path) order ((v, .visiting) :: marks) := by
  intro name
  by_cases same : name = v
  · subst same
    simp [new]
  · have differ : (name == v) = false := beq_false_of_ne same
    simp [List.lookup_cons, differ, same, marked name]

/-- A struct that is left is marked as done. -/
lemma Marked.leave (marked : Marked (v :: path) order marks) :
    Marked path (order ++ [v]) ((v, .done) :: marks) := by
  intro name
  by_cases same : name = v
  · subst same
    simp
  · have differ : (name == v) = false := beq_false_of_ne same
    simp [List.lookup_cons, differ, same, marked name]

/-- A struct that is listed, or by pointer on the path, is not visited again. -/
lemma Marked.of_settled {byPointer : Bool} (marked : Marked path order marks)
    (settled : v ∈ order ∨ v ∈ path ∧ byPointer = true) :
    marks.lookup v = some .done ∨ marks.lookup v = some .visiting ∧ byPointer = true := by
  rw [marked v]
  obtain listed | ⟨onPath, pointer⟩ := settled
  · exact .inl (if_pos listed)
  · by_cases listed : v ∈ order
    · exact .inl (if_pos listed)
    · exact .inr ⟨by rw [if_neg listed, if_pos onPath], pointer⟩

/-- What is on the path is marked as being visited. -/
lemma Marked.of_onPath (marked : Marked path order marks) (new : v ∉ order) (onPath : v ∈ path) :
    marks.lookup v = some .visiting := by
  rw [marked v, if_neg new, if_pos onPath]

/-- What is neither listed nor on the path has no mark. -/
lemma Marked.of_new (marked : Marked path order marks) (new : v ∉ order) (off : v ∉ path) :
    marks.lookup v = none := by
  rw [marked v, if_neg new, if_neg off]

/-! ## Turns -/

/-- A visit to a struct with a mark does nothing. -/
lemma turn_visit_marked {mark : Mark} (old : marks.lookup v = some mark) :
    turn reg ⟨s, marks, .visit v :: calls⟩ = .inr ⟨s, marks, calls⟩ := by
  simp only [turn, Walker.visit, old]

/-- A visit to a name that no struct has does nothing. -/
lemma turn_visit_undeclared (undeclared : reg.structDecl? v = none) :
    turn reg ⟨s, marks, .visit v :: calls⟩ = .inr ⟨s, marks, calls⟩ := by
  simp only [turn, Walker.visit, undeclared]
  split <;> rfl

/-- A visit to a new struct calls for its members and for leaving it afterwards. -/
lemma turn_visit {d : StructDecl} (new : marks.lookup v = none) (found : reg.structDecl? v = some d) :
    turn reg ⟨s, marks, .visit v :: calls⟩ = .inr ⟨s, (v, .visiting) :: marks,
      d.members.map (fun m => .follow m m.typeName) ++ .leave v :: calls⟩ := by
  simp only [turn, Walker.visit, new, found]

section aliases
variable {typeName following : String}

/-- An alias is noted, and what it stands for is followed in its place. -/
lemma turn_follow_alias (step : reg.aliasStep? typeName = some following) (other : following ≠ typeName) :
    turn reg ⟨s, marks, .follow m typeName :: calls⟩ =
      .inr ⟨s.note reg typeName, marks, .follow m following :: calls⟩ := by
  have kind : reg.classify typeName = .declared .aliased := by
    by_contra other
    rw [Registry.aliasStep?, if_neg other] at step
    cases step
  simp only [turn, Walker.follow, kind, step, if_neg other]

/-- A name is only noted that is no struct and stands for no other one. -/
lemma turn_follow_bare (stays : ∀ target, reg.aliasStep? typeName = some target → target = typeName)
    (bare : reg.isStruct typeName = false) :
    turn reg ⟨s, marks, .follow m typeName :: calls⟩ = .inr ⟨s.note reg typeName, marks, calls⟩ := by
  unfold turn Walker.follow
  dsimp only
  cases kind : reg.classify typeName with
  | scalar => rfl
  | unknown => rfl
  | declared kind' =>
    cases kind' with
    | enum => rfl
    | handle => rfl
    | primitive => rfl
    | struct => simp [Registry.isStruct, kind] at bare
    | aliased =>
      cases step : reg.aliasStep? typeName with
      | none => rfl
      | some target => simp only [if_pos (stays target step)]

/-- A struct is noted, and what happens besides depends on its mark. -/
lemma turn_follow_struct (struct : reg.isStruct typeName = true) :
    turn reg ⟨s, marks, .follow m typeName :: calls⟩ =
      match marks.lookup typeName with
      | some .done => .inr ⟨s.note reg typeName, marks, calls⟩
      | some .visiting =>
        if m.isPointer then .inr ⟨s.note reg typeName, marks, calls⟩ else .inl (.error typeName)
      | none => .inr ⟨s.note reg typeName, marks, .visit typeName :: calls⟩ := by
  have kind : reg.classify typeName = .declared .struct := by simpa [Registry.isStruct] using struct
  simp only [turn, Walker.follow, kind]
  cases marks.lookup typeName with
  | none => rfl
  | some mark =>
    cases mark with
    | done => rfl
    | visiting => cases m.isPointer <;> rfl

/-- The walk follows a type name along its trail and comes to the last name on it, with all others noted. -/
lemma turns_trail {seen : List String} (led : ∀ x ∈ seen, Walk.Hops reg.aliasStep? x typeName)
    (new : typeName ∉ seen) (straight : Walk.Straight reg.aliasStep? typeName) :
    ∃ names last, (Walk.trail reg.aliasStep? reg.aliasNames (fun _ _ => reg.mem_aliasNames_of_aliasStep?) seen
        typeName).names = names ++ [last] ∧
      (∀ target, reg.aliasStep? last = some target → target = last) ∧
      Turns (turn reg) ⟨s, marks, .follow m typeName :: calls⟩
        ⟨names.foldl (Survey.note reg) s, marks, .follow m last :: calls⟩ := by
  induction seen, typeName using Walk.trail.induct reg.aliasStep? reg.aliasNames
    (fun _ _ => reg.mem_aliasNames_of_aliasStep?) generalizing s with
  | case1 seen typeName old => exact (new old).elim
  | case2 seen typeName _ stop =>
    rw [Walk.trail_of_end new stop]
    refine ⟨[], typeName, rfl, fun target step => ?_, .refl⟩
    cases stop.symm.trans step
  | case3 seen typeName _ following step _ ih =>
    rw [Walk.trail_of_step new step]
    by_cases self : following = typeName
    · subst self
      rw [Walk.trail_of_mem List.mem_cons_self]
      exact ⟨[], following, rfl, fun target step' => Option.some.inj (step'.symm.trans step), .refl⟩
    · have new' : following ∉ typeName :: seen := by
        intro old
        cases old with
        | head => exact self rfl
        | tail _ old => exact self (straight typeName following .refl (.single step) (led _ old)).symm
      have led' : ∀ x ∈ typeName :: seen, Walk.Hops reg.aliasStep? x following :=
        List.forall_mem_cons.2 ⟨.single step, fun x mem => (led x mem).tail step⟩
      obtain ⟨names, last, trail, stays, go⟩ := ih led' new' (straight.tail step) (s := s.note reg typeName)
      refine ⟨typeName :: names, last, congrArg (typeName :: ·) trail, stays, ?_⟩
      exact .head (turn_follow_alias step self) go

/-- The walk follows a member to the last name on the trail of its type. -/
lemma turns_member (straight : Walk.Straight reg.aliasStep? m.typeName) :
    ∃ names last, reg.typeTrail m.typeName = names ++ [last] ∧
      (∀ target, reg.aliasStep? last = some target → target = last) ∧
      Turns (turn reg) ⟨s, marks, .follow m m.typeName :: calls⟩
        ⟨names.foldl (Survey.note reg) s, marks, .follow m last :: calls⟩ :=
  turns_trail nofun List.not_mem_nil straight

/-- The struct of a member is the last name of its trail, if that is a struct. -/
lemma memberStruct?_eq {names : List String} {last : String} (trail : reg.typeTrail m.typeName = names ++ [last]) :
    reg.memberStruct? m = if reg.isStruct last then some last else none := by
  rw [Registry.memberStruct?, trail, List.getLast?_concat]
  rfl

/-- The struct that a member leads to is the last name on the trail. -/
lemma isStruct_of_target {names : List String} {last : String} (trail : reg.typeTrail m.typeName = names ++ [last])
    (target : (memberLead reg m).target? = some v) : reg.isStruct last = true ∧ last = v := by
  rw [memberLead, memberStruct?_eq trail] at target
  exact Option.ite_none_right_eq_some.1 target |>.imp_right Option.some.inj

/-- The names of a lead are those of the trail, the last one included. -/
lemma foldl_note_member {names : List String} {last : String}
    (trail : reg.typeTrail m.typeName = names ++ [last]) :
    (memberLead reg m).names.foldl (Survey.note reg) s = (names.foldl (Survey.note reg) s).note reg last := by
  rw [memberLead, trail, List.foldl_append]
  rfl

end aliases

/-! ## The descent -/

/-- What a call follows. -/
inductive Performs (reg : Registry) : Call → Lead → Prop where
  | follow (m : Member) : Performs reg (.follow m m.typeName) (memberLead reg m)
  | visit (name : String) : Performs reg (.visit name) (rootLead reg name)

variable {c : Call} {l : Lead}

/-- The call for a lead without a new struct is made by noting the names of the lead. -/
lemma Performs.pass (performs : Performs reg c l) (selfAliases : SelfAliases reg ⟨s, marks, c :: calls⟩)
    (marked : Marked path s.order marks)
    (settled : ∀ v, l.target? = some v → v ∈ s.order ∨ v ∈ path ∧ l.byPointer = true) :
    Turns (turn reg) ⟨s, marks, c :: calls⟩ ⟨l.names.foldl (Survey.note reg) s, marks, calls⟩ := by
  cases performs with
  | visit name =>
    apply ReflTransGen.single
    cases found : reg.structDecl? name with
    | none => exact turn_visit_undeclared found
    | some d =>
      have target : (rootLead reg name).target? = some name := by simp [rootLead, found]
      obtain done | ⟨visiting, _⟩ := marked.of_settled (settled name target)
      · exact turn_visit_marked done
      · exact turn_visit_marked visiting
  | follow m =>
    obtain ⟨names, last, trail, stays, go⟩ := turns_member (selfAliases _ m calls .refl rfl)
    rw [foldl_note_member trail]
    refine go.tail ?_
    cases struct : reg.isStruct last with
    | false => exact turn_follow_bare stays struct
    | true =>
      have target : (memberLead reg m).target? = some last := (memberStruct?_eq trail).trans (if_pos struct)
      rw [turn_follow_struct struct]
      obtain done | ⟨visiting, pointer⟩ := marked.of_settled (settled last target)
      · rw [done]
      · rw [visiting]
        exact if_pos pointer

/-- The call for a lead by value back onto the path ends the walk. -/
lemma Performs.cycle (performs : Performs reg c l) (selfAliases : SelfAliases reg ⟨s, marks, c :: calls⟩)
    (visiting : marks.lookup v = some .visiting) (target : l.target? = some v) (value : l.byPointer = false) :
    ∃ w, Turns (turn reg) ⟨s, marks, c :: calls⟩ w ∧ turn reg w = .inl (.error v) := by
  cases performs with
  | visit name => cases value
  | follow m =>
    obtain ⟨names, last, trail, _, go⟩ := turns_member (selfAliases _ m calls .refl rfl)
    obtain ⟨struct, rfl⟩ := isStruct_of_target trail target
    refine ⟨_, go, ?_⟩
    rw [turn_follow_struct struct, visiting]
    exact if_neg (Bool.eq_false_iff.1 value)

/-- The call for a lead to a new struct comes to enter it. -/
lemma Performs.enter (performs : Performs reg c l) (selfAliases : SelfAliases reg ⟨s, marks, c :: calls⟩)
    (unmarked : marks.lookup v = none) (target : l.target? = some v) :
    ∃ d, reg.structDecl? v = some d ∧ Turns (turn reg) ⟨s, marks, c :: calls⟩
      ⟨l.names.foldl (Survey.note reg) s, (v, .visiting) :: marks,
        d.members.map (fun m => .follow m m.typeName) ++ .leave v :: calls⟩ := by
  cases performs with
  | visit name =>
    obtain ⟨d, found, rfl⟩ := Option.map_eq_some_iff.1 target
    exact ⟨d, found, .single (turn_visit unmarked found)⟩
  | follow m =>
    obtain ⟨names, last, trail, _, go⟩ := turns_member (selfAliases _ m calls .refl rfl)
    obtain ⟨struct, rfl⟩ := isStruct_of_target trail target
    obtain ⟨d, found⟩ := Registry.structDecl?_of_isStruct struct
    refine ⟨d, found, (go.tail ?_).tail (turn_visit unmarked found)⟩
    rw [turn_follow_struct struct, unmarked, foldl_note_member trail]

/-- The members of a struct are followed by calls of their own. -/
lemma performs_leads {d : StructDecl} (found : reg.structDecl? v = some d) :
    List.Forall₂ (Performs reg) (d.members.map fun m => .follow m m.typeName) (leads reg v) := by
  rw [leads_of_structDecl? found, List.forall₂_map_left_iff, List.forall₂_map_right_iff, List.forall₂_same]
  exact fun m _ => .follow m

/-- The calls for the roots perform what their leads ask for. -/
lemma performs_roots (names : List String) :
    List.Forall₂ (Performs reg) (names.map .visit) (names.map (rootLead reg)) := by
  simp only [List.forall₂_map_left_iff, List.forall₂_map_right_iff, List.forall₂_same]
  exact fun name _ => .visit name

/-- Where the calls that follow some leads come to: they are made, or the walk ends at a cycle. -/
def ComesTo (reg : Registry) (w : Walker) (path : List String) (calls : List Call) : Except String Survey → Prop
  | .ok s => ∃ marks, Marked path s.order marks ∧ Turns (turn reg) w ⟨s, marks, calls⟩
  | .error name => ∃ w', Turns (turn reg) w w' ∧ turn reg w' = .inl (.error name)

/-- What is come to after some turns is come to before them. -/
lemma ComesTo.of_turns {w w' : Walker} {r : Except String Survey} (go : Turns (turn reg) w w')
    (comes : ComesTo reg w' path calls r) : ComesTo reg w path calls r := by
  cases r with
  | ok s =>
    obtain ⟨marks, marked, go'⟩ := comes
    exact ⟨marks, marked, go.trans go'⟩
  | error name =>
    obtain ⟨w'', go', ends⟩ := comes
    exact ⟨w'', go.trans go', ends⟩

/-- The calls for the leads of a descent take its steps, and come to its result. -/
theorem Descends.turns {ls : List Lead} {r : Except String Survey} {cs : List Call}
    (steps : Descends reg path s ls r) (performs : List.Forall₂ (Performs reg) cs ls)
    (marked : Marked path s.order marks) (selfAliases : SelfAliases reg ⟨s, marks, cs ++ calls⟩) :
    ComesTo reg ⟨s, marks, cs ++ calls⟩ path calls r := by
  induction steps generalizing cs marks calls with
  | nil =>
    cases performs
    exact ⟨marks, marked, .refl⟩
  | pass settled _ ih =>
    obtain _ | ⟨performs, rest⟩ := performs
    have go := performs.pass selfAliases marked settled
    refine .of_turns go (ih rest ?_ (selfAliases.of_turns go))
    rwa [Survey.foldl_note_order]
  | cycle target new onPath value =>
    obtain _ | ⟨performs, _⟩ := performs
    exact performs.cycle selfAliases (marked.of_onPath new onPath) target value
  | fail target new off _ ih =>
    obtain _ | ⟨performs, _⟩ := performs
    obtain ⟨d, found, go⟩ := performs.enter selfAliases (marked.of_new new off) target
    have inner := ih (performs_leads found) (by simpa using marked.enter new) (selfAliases.of_turns go)
    exact .of_turns go inner
  | enter target new off _ _ ihIn ih =>
    obtain _ | ⟨performs, rest⟩ := performs
    obtain ⟨d, found, go⟩ := performs.enter selfAliases (marked.of_new new off) target
    obtain ⟨marks', marked', goIn⟩ :=
      ihIn (performs_leads found) (by simpa using marked.enter new) (selfAliases.of_turns go)
    have go' := (go.trans goIn).tail rfl
    exact .of_turns go' (ih rest marked'.leave (selfAliases.of_turns go'))

/-! ## The closure -/

variable {disabled : DisabledSet} {rules : Rules}

/-- The loop from the roots gives the closure. -/
lemma loop_start (selfAliases : SelfAliases reg (start reg disabled rules)) :
    loop (turn reg) (start reg disabled rules) = Part.some (DependencyClosure.compute reg disabled rules) := by
  have comes : ComesTo reg (start reg disabled rules) [] []
      ((roots reg disabled rules).foldlM (visit reg) {}) := by
    have steps := descends_roots reg {} (roots reg disabled rules)
    rw [start, ← List.append_nil (List.map ..)]
    apply steps.turns (performs_roots _) Marked.nil
    rwa [List.append_nil]
  unfold DependencyClosure.compute
  cases result : (roots reg disabled rules).foldlM (visit reg) {} with
  | ok s =>
    rw [result] at comes
    obtain ⟨marks, _, go⟩ := comes
    rw [loop_of_turns go]
    exact loop_of_return rfl
  | error name =>
    rw [result] at comes
    obtain ⟨w, go, ends⟩ := comes
    rw [loop_of_turns go]
    exact loop_of_return ends

/-- The next call follows a name before a cycle of several aliases. -/
def FollowsCycle (reg : Registry) (w : Walker) : Prop :=
  ∃ m typeName calls x y, w.calls = .follow m typeName :: calls ∧ Walk.Hops reg.aliasStep? typeName x ∧
    Walk.Hops reg.aliasStep? x y ∧ Walk.Hops reg.aliasStep? y x ∧ x ≠ y

/-- Along a cycle of several aliases each turn goes on to the next one. -/
lemma FollowsCycle.turn {w : Walker} (follows : FollowsCycle reg w) :
    ∃ w', Closure.turn reg w = .inr w' ∧ FollowsCycle reg w' := by
  obtain ⟨s, marks, _⟩ := w
  obtain ⟨m, typeName, calls, x, y, rfl, hops, there, back, differ⟩ := follows
  obtain ⟨following, hop, other, hops'⟩ := Walk.exists_hop_of_cycle hops there back differ
  exact ⟨_, turn_follow_alias hop other, m, following, calls, x, y, rfl, hops', there, back, differ⟩

/-- The walk finishes exactly where aliases come back from a name to itself only. -/
theorem dom_loop_iff :
    (loop (turn reg) (start reg disabled rules)).Dom ↔ SelfAliases reg (start reg disabled rules) := by
  constructor
  · intro finishes w m calls go next x y hops there back
    by_contra differ
    have follows : FollowsCycle reg w := ⟨m, m.typeName, calls, x, y, next, hops, there, back, differ⟩
    rw [loop_of_turns go] at finishes
    exact not_dom_loop (fun _ follows => follows.turn) follows finishes
  · intro selfAliases
    rw [loop_start selfAliases]
    trivial

/-- The walk finishes where no aliases behind the members that it follows come back to a name, unless from that name
itself, however the structs are made of each other. It enters no struct twice, and returns the closure or the struct
at which a cycle is found. -/
theorem walk_finishes (reg : Registry) (disabled : DisabledSet) (rules : Rules)
    (selfAliases : SelfAliases reg (start reg disabled rules)) :
    loop (turn reg) (start reg disabled rules) = Part.some (DependencyClosure.compute reg disabled rules) ∧
      ∀ w, Turns (turn reg) (start reg disabled rules) w → w.entered.Nodup :=
  ⟨loop_start selfAliases, fun _ go => nodup_entered_of_turns go List.nodup_nil⟩

/-- A device and a heap that lead to each other, over an alias of the heap, and a kind that is an alias of itself. -/
def selfKind : Registry where
  structs := [
    { name := "VkPhysicalDeviceA", members := [bareMember "heap" "VkHeapKHR" 0] },
    { name := "VkHeapKHR", aliasOf := some "VkHeap", members := [] },
    { name := "VkHeap", members := [bareMember "kind" "VkKind" 0, bareMember "pDevice" "VkPhysicalDeviceA" 1] }]
  typeAliases := [("VkKind", "VkKind")]

/-- The walk finishes on a registry with a pointer cycle, an alias of a struct and an alias of itself. -/
theorem walk_finishes_selfKind :
    SelfAliases selfKind (start selfKind {} {}) ∧
      loop (turn selfKind) (start selfKind {} {}) = Part.some (.ok {
        order := [⟨"VkHeap", true⟩, ⟨"VkPhysicalDeviceA", true⟩], aliases := ["VkHeapKHR", "VkKind"] }) ∧
      ∀ w, Turns (turn selfKind) (start selfKind {} {}) w → w.entered.Nodup := by
  have falls : ∀ x ∈ selfKind.aliasNames, ∀ y ∈ selfKind.aliasStep? x,
      y = x ∨ (if y = "VkHeapKHR" then 1 else 0) < if x = "VkHeapKHR" then 1 else 0 := by
    decide +kernel
  have selfAliases : SelfAliases selfKind (start selfKind {} {}) := fun _ _ _ _ _ =>
    Walk.Straight.of_rank _ fun x y step => falls x (selfKind.mem_aliasNames_of_aliasStep? step) y step
  have done : DependencyClosure.compute selfKind {} {} = .ok {
      order := [⟨"VkHeap", true⟩, ⟨"VkPhysicalDeviceA", true⟩], aliases := ["VkHeapKHR", "VkKind"] } := by
    decide +kernel
  obtain ⟨finishes, once⟩ := walk_finishes selfKind {} {} selfAliases
  exact ⟨selfAliases, finishes.trans (congrArg Part.some done), once⟩

end CapabilityRegistry.Closure
