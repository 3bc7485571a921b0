import CapabilityRegistry.ValueRange
import Mathlib.Data.Int.Range
import Mathlib.Data.List.Sort
import Mathlib.Data.List.SplitBy
import Mathlib.Tactic.Lemma

/-!
# Ranges as segments

Sorted by value, named values fall into segments of consecutive values in exactly one way, if no segment
may go on where the one before it stops. The ranges of consecutive values are the ends of these segments,
and what lies between the ends are the values themselves (`contiguous_segments`).
-/

namespace CapabilityRegistry.ValueRange

/-! ## Stable sorting -/

/-- The same values in ascending order, where those that are equal keep their order. -/
structure StablySorted (values sorted : List (String × Int)) : Prop where
  perm : sorted.Perm values
  ascending : sorted.Pairwise fun a b => a.2 ≤ b.2
  stable : ∀ value, (sorted.filter fun a => a.2 = value) = values.filter fun a => a.2 = value

/-- The computed order is a stable sorting. -/
lemma stablySorted_sortByValue (values : List (String × Int)) :
    StablySorted values (sortByValue values) := by
  have trans : ∀ a b c : String × Int, decide (a.2 ≤ b.2) = true → decide (b.2 ≤ c.2) = true →
      decide (a.2 ≤ c.2) = true := by
    intro a b c ab bc
    exact decide_eq_true (Int.le_trans (of_decide_eq_true ab) (of_decide_eq_true bc))
  have total : ∀ a b : String × Int, (decide (a.2 ≤ b.2) || decide (b.2 ≤ a.2)) = true := by
    intro a b
    rw [Bool.or_eq_true, decide_eq_true_eq, decide_eq_true_eq]
    exact Int.le_total a.2 b.2
  have perm : (sortByValue values).Perm values := List.mergeSort_perm values _
  refine ⟨perm, ?_, fun value => ?_⟩
  · exact (List.pairwise_mergeSort trans total values).imp of_decide_eq_true
  · -- the entries of one value are sorted as they stand, so that sorting leaves them in this order
    have level : (values.filter fun a => a.2 = value).Pairwise fun a b => decide (a.2 ≤ b.2) = true := by
      refine List.pairwise_of_forall_mem_list fun a mem b mem' => ?_
      have eq : a.2 = value := of_decide_eq_true (List.mem_filter.1 mem).2
      have eq' : b.2 = value := of_decide_eq_true (List.mem_filter.1 mem').2
      exact decide_eq_true (Int.le_of_eq (eq.trans eq'.symm))
    have kept := (List.sublist_mergeSort trans total level List.filter_sublist).filter fun a => a.2 = value
    simp only [List.filter_filter, Bool.and_self] at kept
    exact (kept.eq_of_length (perm.filter _).length_eq.symm).symm

/-- Lists that agree on each value have the same items. -/
lemma mem_iff_of_filter_eq {l l' : List (String × Int)}
    (same : ∀ value, (l.filter fun a => a.2 = value) = l'.filter fun a => a.2 = value)
    (a : String × Int) : a ∈ l ↔ a ∈ l' := by
  have own : ∀ l : List (String × Int), a ∈ (l.filter fun b => b.2 = a.2) ↔ a ∈ l :=
    fun l => List.mem_filter.trans (and_iff_left (decide_eq_true rfl))
  rw [← own l, same, own l']

/-- What is sorted in ascending order is told by its entries of each value. -/
lemma eq_of_filter_eq {l l' : List (String × Int)} (ascending : l.Pairwise fun a b => a.2 ≤ b.2)
    (ascending' : l'.Pairwise fun a b => a.2 ≤ b.2)
    (same : ∀ value, (l.filter fun a => a.2 = value) = l'.filter fun a => a.2 = value) : l = l' := by
  induction l generalizing l' with
  | nil =>
    cases l' with
    | nil => rfl
    | cons b l' => exact (List.not_mem_nil ((mem_iff_of_filter_eq same b).2 List.mem_cons_self)).elim
  | cons a l ih =>
    cases l' with
    | nil => exact (List.not_mem_nil ((mem_iff_of_filter_eq same a).1 List.mem_cons_self)).elim
    | cons b l' =>
      obtain ⟨least, tail⟩ := List.pairwise_cons.1 ascending
      obtain ⟨least', tail'⟩ := List.pairwise_cons.1 ascending'
      have le : a.2 ≤ b.2 := by
        cases (mem_iff_of_filter_eq same b).2 List.mem_cons_self with
        | head => exact Int.le_refl _
        | tail _ mem => exact least b mem
      have le' : b.2 ≤ a.2 := by
        cases (mem_iff_of_filter_eq same a).1 List.mem_cons_self with
        | head => exact Int.le_refl _
        | tail _ mem => exact least' a mem
      have value : b.2 = a.2 := Int.le_antisymm le' le
      obtain rfl : a = b := by
        have first := same a.2
        rw [List.filter_cons, List.filter_cons, if_pos (decide_eq_true rfl),
          if_pos (decide_eq_true value)] at first
        exact (List.cons.inj first).1
      have rest : ∀ value, (l.filter fun c => c.2 = value) = l'.filter fun c => c.2 = value := by
        intro value
        have eq := same value
        rw [List.filter_cons, List.filter_cons] at eq
        split at eq
        next => exact (List.cons.inj eq).2
        next => exact eq
      rw [ih tail tail' rest]

/-- There is one stable sorting only. -/
lemma StablySorted.unique {values sorted sorted' : List (String × Int)}
    (h : StablySorted values sorted) (h' : StablySorted values sorted') : sorted = sorted' :=
  eq_of_filter_eq h.ascending h'.ascending fun value => (h.stable value).trans (h'.stable value).symm

/-! ## Segments -/

/-- Consecutive values. -/
structure Segment where
  members : List (String × Int)
  nonempty : members ≠ []
  consecutive : members.IsChain fun a b => a.2 + 1 = b.2

namespace Segment

/-- The value at which a segment starts. -/
def first (s : Segment) : String × Int :=
  s.members.head s.nonempty

/-- The value at which a segment stops. -/
def last (s : Segment) : String × Int :=
  s.members.getLast s.nonempty

/-- The range of a segment. -/
def range (s : Segment) : ValueRange :=
  ⟨s.first.1, s.last.1⟩

/-- All integers from the first value of a segment to its last one. -/
def interval (s : Segment) : List Int :=
  Int.range s.first.2 (s.last.2 + 1)

/-- The segment of one value. -/
def single (a : String × Int) : Segment :=
  ⟨[a], List.cons_ne_nil a [], List.isChain_singleton a⟩

/-- A segment with the value that follows. -/
def extend (s : Segment) (next : String × Int) (follows : s.last.2 + 1 = next.2) : Segment where
  members := s.members ++ [next]
  nonempty := List.append_ne_nil_of_right_ne_nil _ (List.cons_ne_nil next [])
  consecutive := by
    refine List.isChain_append.2 ⟨s.consecutive, List.isChain_singleton next, ?_⟩
    intro a mem b mem'
    cases mem'
    rwa [← List.getLast_of_mem_getLast? mem]

variable {s : Segment} {next : String × Int}

/-- A segment that goes on starts where it started. -/
@[simp]
lemma first_extend (follows : s.last.2 + 1 = next.2) : (s.extend next follows).first = s.first :=
  List.head_append_of_ne_nil s.nonempty

/-- A segment that goes on ends with the value that it goes on to. -/
@[simp]
lemma last_extend (follows : s.last.2 + 1 = next.2) : (s.extend next follows).last = next :=
  List.getLast_concat

/-- A segment is determined by its members. -/
lemma ext {s t : Segment} (same : s.members = t.members) : s = t := by
  cases s
  cases t
  cases same
  rfl

end Segment

/-- A range starts with its lower end. -/
lemma int_range_of_lt {m n : Int} (lt : m < n) : Int.range m n = m :: Int.range (m + 1) n := by
  have length : (n - m).toNat = (n - (m + 1)).toNat + 1 := by omega
  rw [Int.range, length, List.range_succ_eq_map, List.map_cons, List.map_map, Int.range]
  refine congrArg₂ _ (Int.add_zero m) (List.map_congr_left fun k _ => ?_)
  show m + ((k + 1 : Nat) : Int) = m + 1 + (k : Int)
  omega

/-- Consecutive values are all that lies between the first and the last one. -/
lemma range_of_consecutive {a : String × Int} {l : List (String × Int)}
    (consecutive : (a :: l).IsChain fun a b => a.2 + 1 = b.2) :
    a.2 ≤ ((a :: l).getLast (List.cons_ne_nil a l)).2 ∧
      Int.range a.2 (((a :: l).getLast (List.cons_ne_nil a l)).2 + 1) = (a :: l).map (·.2) := by
  induction l generalizing a with
  | nil =>
    refine ⟨Int.le_refl _, ?_⟩
    rw [List.getLast_singleton, int_range_of_lt (Int.lt_succ a.2), Int.range, Int.sub_self]
    rfl
  | cons b l ih =>
    obtain ⟨follows, rest⟩ := List.isChain_cons_cons.1 consecutive
    obtain ⟨le, range⟩ := ih rest
    rw [List.getLast_cons (List.cons_ne_nil b l)]
    refine ⟨by omega, ?_⟩
    rw [int_range_of_lt (by omega), follows, range]
    rfl

/-- The interval of a segment has the values of its members. -/
lemma Segment.interval_eq (s : Segment) : s.interval = s.members.map (·.2) := by
  obtain ⟨members, nonempty, consecutive⟩ := s
  cases members with
  | nil => exact (nonempty rfl).elim
  | cons a l => exact (range_of_consecutive consecutive).2

/-! ## Factorisation -/

/-- The segments make up the values, and none goes on where the one before it stops. -/
structure Factors (values : List (String × Int)) (segments : List Segment) : Prop where
  sorted : StablySorted values (segments.flatMap Segment.members)
  maximal : segments.IsChain fun s t => s.last.2 + 1 ≠ t.first.2

/-- Cuts sorted values behind a segment, which takes in what follows it. -/
def Segment.cut (s : Segment) : List (String × Int) → List Segment
  | [] => [s]
  | next :: rest =>
    if follows : s.last.2 + 1 = next.2 then (s.extend next follows).cut rest
    else s :: (single next).cut rest

section cut
variable {s : Segment} {rest : List (String × Int)}

/-- The computed ranges are those of the segments that are cut. -/
lemma runs_eq_cut : runs s.first.1 s.last rest = (s.cut rest).map Segment.range := by
  induction rest generalizing s with
  | nil => rfl
  | cons next rest ih =>
    unfold runs Segment.cut
    split
    next follows =>
      rw [← ih, Segment.first_extend, Segment.last_extend]
    next =>
      rw [List.map_cons, ← ih]
      rfl

/-- The segments have all values, in their order. -/
lemma flatMap_cut : (s.cut rest).flatMap Segment.members = s.members ++ rest := by
  induction rest generalizing s with
  | nil => rfl
  | cons next rest ih =>
    unfold Segment.cut
    split
    next follows => exact ih.trans (List.append_assoc s.members [next] rest)
    next => rw [List.flatMap_cons, ih]; rfl

/-- The first segment starts with the first value. -/
lemma first_of_mem_cut : ∀ t ∈ (s.cut rest).head?, t.first = s.first := by
  induction rest generalizing s with
  | nil =>
    intro t mem
    cases mem
    rfl
  | cons next rest ih =>
    unfold Segment.cut
    split
    next follows => exact fun t mem => (ih t mem).trans (Segment.first_extend follows)
    next =>
      intro t mem
      cases mem
      rfl

/-- No segment could go on with the next one. -/
lemma maximal_cut : (s.cut rest).IsChain fun s t => s.last.2 + 1 ≠ t.first.2 := by
  induction rest generalizing s with
  | nil => exact List.isChain_singleton s
  | cons next rest ih =>
    unfold Segment.cut
    split
    next => exact ih
    next apart =>
      refine List.isChain_cons.2 ⟨fun t mem => ?_, ih⟩
      rw [first_of_mem_cut t mem]
      exact apart

end cut

/-- There is one way only to cut values into segments. -/
lemma Factors.unique {values : List (String × Int)} {segments segments' : List Segment}
    (h : Factors values segments) (h' : Factors values segments') : segments = segments' := by
  have split : ∀ {segments}, Factors values segments →
      (sortByValue values).splitBy (fun a b => a.2 + 1 = b.2) = segments.map Segment.members := by
    intro segments h
    refine List.splitBy_eq_iff.2 ⟨?_, ?_, ?_, ?_⟩
    · rw [(stablySorted_sortByValue values).unique h.sorted, List.flatMap_def]
    · intro mem
      obtain ⟨s, _, empty⟩ := List.mem_map.1 mem
      exact s.nonempty empty
    · intro members mem
      obtain ⟨s, _, rfl⟩ := List.mem_map.1 mem
      exact s.consecutive.imp fun _ _ => decide_eq_true
    · refine (List.isChain_map _).2 (h.maximal.imp fun s t apart => ?_)
      exact ⟨s.nonempty, t.nonempty, decide_eq_false apart⟩
  refine List.map_injective_iff.2 (fun s t => Segment.ext) ?_
  exact (split h).symm.trans (split h')

/-- Values have a factorisation whose ranges are the computed ones. -/
lemma exists_factors (values : List (String × Int)) :
    ∃ segments, Factors values segments ∧ contiguous values = segments.map Segment.range := by
  have stable := stablySorted_sortByValue values
  unfold contiguous
  split
  next empty =>
    rw [empty] at stable
    exact ⟨[], ⟨stable, .nil⟩, rfl⟩
  next first rest sorted =>
    have members : ((Segment.single first).cut rest).flatMap Segment.members = first :: rest := flatMap_cut
    rw [sorted, ← members] at stable
    have ranges : runs first.1 first rest = ((Segment.single first).cut rest).map Segment.range :=
      runs_eq_cut (s := Segment.single first)
    exact ⟨(Segment.single first).cut rest, ⟨stable, maximal_cut⟩, ranges⟩

/-- The intervals of a factorisation have all values in order. -/
lemma Factors.flatMap_interval {values : List (String × Int)} {segments : List Segment}
    (h : Factors values segments) :
    segments.flatMap Segment.interval = (values.map (·.2)).mergeSort := by
  have eq : segments.flatMap Segment.interval = (segments.flatMap Segment.members).map (·.2) := by
    rw [List.map_flatMap]
    exact congrArg segments.flatMap (funext Segment.interval_eq)
  rw [eq]
  refine List.Perm.eq_of_pairwise (fun a b _ _ => Int.le_antisymm)
    (List.pairwise_map.2 h.sorted.ascending) (List.pairwise_mergeSort' (· ≤ ·) _) ?_
  exact (h.sorted.perm.map _).trans (List.mergeSort_perm _ _).symm

/-- The ranges of values are those of their one factorisation into segments that do not go on from one
another, and the integers in the ranges are the values in ascending order, each as often as it comes. -/
theorem contiguous_segments (values : List (String × Int)) :
    ∃ segments, (∀ segments', Factors values segments' ↔ segments' = segments) ∧
      contiguous values = segments.map Segment.range ∧
      segments.flatMap Segment.interval = (values.map (·.2)).mergeSort := by
  obtain ⟨segments, factors, ranges⟩ := exists_factors values
  refine ⟨segments, fun segments' => ⟨fun h => h.unique factors, ?_⟩, ranges, factors.flatMap_interval⟩
  rintro rfl
  exact factors

/-- Equal values break a run, also at the largest value of a machine word. -/
example : contiguous [("A", 9223372036854775807), ("B", 9223372036854775807), ("C", 9223372036854775806)] =
    [⟨"C", "A"⟩, ⟨"B", "B"⟩] := by
  cbv

end CapabilityRegistry.ValueRange
