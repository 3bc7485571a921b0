/-!
# Tables from names to texts

A table holds one text for each of its names, sorted by name. Two tables with the same answers are
equal, because the order of the entries is fixed.
-/

namespace CapabilityRegistry

/-- A finite map from names to texts. -/
structure NameTable where
  entries : List (String × String) := []
  /-- The names ascend. -/
  sorted : (entries.map (·.1)).Pairwise (· < ·) := by simp

namespace NameTable

/-- Puts a text under a name among sorted entries, in place of the one that is there. -/
def insertEntry (name text : String) : List (String × String) → List (String × String)
  | [] => [(name, text)]
  | (other, held) :: rest =>
    if name < other then (name, text) :: (other, held) :: rest
    else if name = other then (name, text) :: rest
    else (other, held) :: insertEntry name text rest

/-- An inserted entry adds its name to the names of a table and takes none away. -/
theorem mem_names_insertEntry {name text x : String} {entries : List (String × String)} :
    x ∈ (insertEntry name text entries).map (·.1) ↔ x = name ∨ x ∈ entries.map (·.1) := by
  induction entries with
  | nil => simp [insertEntry]
  | cons e rest ih =>
    obtain ⟨other, held⟩ := e
    unfold insertEntry
    split
    · simp
    · split
      · simp_all
      · rw [List.map_cons, List.mem_cons, ih, List.map_cons, List.mem_cons]
        exact or_left_comm

/-- An entry is inserted where its name keeps the order. -/
theorem sorted_insertEntry {name text : String} {entries : List (String × String)}
    (h : (entries.map (·.1)).Pairwise (· < ·)) :
    ((insertEntry name text entries).map (·.1)).Pairwise (· < ·) := by
  induction entries with
  | nil => simp [insertEntry]
  | cons e rest ih =>
    obtain ⟨other, held⟩ := e
    simp only [List.map_cons, List.pairwise_cons] at h
    unfold insertEntry
    split
    next less =>
      simp only [List.map_cons, List.pairwise_cons, List.mem_cons]
      refine ⟨?_, h.1, h.2⟩
      rintro x (rfl | mem)
      · exact less
      · exact String.lt_trans less (h.1 x mem)
    next notLess =>
      split
      next same =>
        subst same
        exact List.pairwise_cons.2 h
      next differ =>
        rw [List.map_cons, List.pairwise_cons]
        refine ⟨fun x mem => ?_, ih h.2⟩
        rcases mem_names_insertEntry.1 mem with rfl | mem
        · rcases Std.lt_trichotomy x other with lt | eq | gt
          · exact absurd lt notLess
          · exact absurd eq differ
          · exact gt
        · exact h.1 x mem

/-- Puts a text under a name, in place of the one that is there. -/
def insert (t : NameTable) (name text : String) : NameTable where
  entries := insertEntry name text t.entries
  sorted := sorted_insertEntry t.sorted

/-- Removes a name. -/
def erase (t : NameTable) (name : String) : NameTable where
  entries := t.entries.filter (·.1 != name)
  sorted := t.sorted.sublist ((List.filter_sublist).map _)

/-- The text under a name. -/
def get? (t : NameTable) (name : String) : Option String :=
  t.entries.lookup name

/-- The table of a list of entries; the last entry of a name wins. -/
def ofList (entries : List (String × String)) : NameTable :=
  entries.foldl (fun t (name, text) => t.insert name text) {}

end NameTable

end CapabilityRegistry
