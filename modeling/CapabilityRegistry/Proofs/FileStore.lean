import CapabilityRegistry.FileStore
import CapabilityRegistry.Proofs.Success
import Mathlib.Data.List.Find

/-!
# Stores that change

What the operations on a store leave alone, whatever incidents they meet with. Making directories keeps all
files (`Grows`). Writing a file puts all its content into it, or only the beginning of that if it fails
(`writeFile_written`), so that writing outputs changes the contents of their files only (`Wrote`). Nothing takes
a directory away, so that a path that led somewhere leads there still (`Keeps.locate`).
-/

namespace CapabilityRegistry.FileStore

variable {store mid after : FileStore} {path : Path} {location : Location}
  {content part : ByteArray}

/-- The directories of one store are there in another one. -/
structure Keeps (store after : FileStore) : Prop where
  workingDirectory : after.workingDirectory = store.workingDirectory
  directories : store.directories ⊆ after.directories

/-- A store keeps its own directories. -/
lemma Keeps.refl : Keeps store store :=
  ⟨rfl, fun _ => id⟩

/-- Directories that are kept twice are kept. -/
lemma Keeps.trans (first : Keeps store mid) (second : Keeps mid after) : Keeps store after :=
  ⟨second.workingDirectory.trans first.workingDirectory,
    fun _ mem => second.directories (first.directories mem)⟩

/-- What was a directory is one still. -/
lemma Keeps.isDirectory (keeps : Keeps store after) (found : store.isDirectory location = true) :
    after.isDirectory location = true := by
  rw [FileStore.isDirectory, Bool.or_eq_true, List.contains_iff_mem] at found ⊢
  rw [keeps.workingDirectory]
  exact found.imp_right fun mem => keeps.directories mem

/-- Pieces that could be followed can be followed still, to the same place. -/
lemma Keeps.follow (keeps : Keeps store after) {start : Location} {pieces : List String}
    (found : store.follow start pieces = .ok location) : after.follow start pieces = .ok location := by
  induction pieces generalizing start with
  | nil => exact found
  | cons piece rest ih =>
    rw [FileStore.follow] at found ⊢
    cases directory : store.isDirectory start with
    | false =>
      rw [directory] at found
      cases found
    | true =>
      rw [directory] at found
      rw [keeps.isDirectory directory]
      simp only [Bool.not_true, Bool.false_eq_true, if_false] at found ⊢
      split_ifs at found ⊢ with same up long
      · exact ih found
      · exact ih found
      · exact ih found

/-- A path that leads somewhere leads there still. -/
lemma Keeps.locate (keeps : Keeps store after) (found : store.locate path = .ok location) :
    after.locate path = .ok location := by
  rw [FileStore.locate] at found ⊢
  split_ifs at found ⊢ with empty unusable absolute
  · exact keeps.follow found
  · rw [keeps.workingDirectory]
    exact keeps.follow found

/-- Nothing happens but that directories are made. -/
structure Grows (store after : FileStore) : Prop extends Keeps store after where
  files : after.files = store.files

/-- Nothing has happened to a store by itself. -/
lemma Grows.refl : Grows store store :=
  ⟨Keeps.refl, rfl⟩

/-- Directories may be made again and again. -/
lemma Grows.trans (first : Grows store mid) (second : Grows mid after) : Grows store after :=
  ⟨first.toKeeps.trans second.toKeeps, second.files.trans first.files⟩

/-- An incident changes nothing by itself. -/
lemma later_grows : Grows store store.later :=
  ⟨⟨rfl, fun _ => id⟩, rfl⟩

/-- An operation that only looks changes nothing. -/
lemma look_grows {α : Type} {answer : FileStore → α} {otherwise : α} :
    Grows store (store.look answer otherwise).2 := by
  unfold look
  cases store.incident with
  | nothing => exact later_grows
  | fault => exact later_grows

/-- An attempt to make a directory makes it or changes nothing. -/
lemma makeDirectory_grows {result : Except FileFault Unit} (made : store.makeDirectory path = (result, after)) :
    Grows store after := by
  obtain rfl : (store.makeDirectory path).2 = after := congrArg Prod.snd made
  fun_cases makeDirectory path store with
  | case1 => exact later_grows
  | case2 => exact later_grows
  | case3 => exact later_grows
  | case4 => exact ⟨⟨rfl, fun _ => List.mem_cons_of_mem _⟩, rfl⟩

/-- Whether the directory is there in the end or not, nothing else has happened. -/
lemma makeDirectories_grows : Grows store (store.makeDirectories path).2 := by
  fun_induction makeDirectories store path with
  | case1 => exact .refl
  | case2 _ _ _ _ made => exact makeDirectory_grows made
  | case3 _ _ _ _ made => exact makeDirectory_grows made
  | case4 _ _ _ _ missing _ _ _ _ parents ih =>
    rw [parents] at ih
    exact (makeDirectory_grows missing).trans ih
  | case5 _ _ _ _ missing _ _ _ _ parents _ made ih =>
    rw [parents] at ih
    exact ((makeDirectory_grows missing).trans ih).trans (makeDirectory_grows made)
  | case6 _ _ _ _ missing _ _ _ _ parents _ _ made ih =>
    rw [parents] at ih
    exact (((makeDirectory_grows missing).trans ih).trans (makeDirectory_grows made)).trans look_grows
  | case7 _ _ _ _ _ _ made => exact (makeDirectory_grows made).trans look_grows

/-! ## Contents of files -/

/-- Taking a file away leaves the entries of all others. -/
lemma lookup_filter {files : List (Location × ByteArray)} {other : Location} (apart : other ≠ location) :
    (files.filter fun file => file.1 != location).lookup other = files.lookup other := by
  induction files with
  | nil => rfl
  | cons file files ih =>
    by_cases same : file.1 = location
    · have passed : (other == file.1) = false := beq_false_of_ne (same ▸ apart)
      rw [List.filter_cons_of_neg (by simp [same]), List.lookup_cons, passed]
      exact ih
    · rw [List.filter_cons_of_pos (by simp [same]), List.lookup_cons, List.lookup_cons, ih]

/-- A file with a location has it whatever incident comes next. -/
lemma locateFile_later (found : store.locateFile path = .ok location) :
    store.later.locateFile path = .ok location := by
  obtain ⟨_, located, found⟩ := bind_eq_ok.1 found
  exact bind_eq_ok.2 ⟨_, later_grows.locate located, found⟩

/-- Of bytes that are put into the same file one after the other only the last ones stay. -/
lemma put_put : (store.put location part).put location content = store.put location content := by
  simp [put]

/-- A write puts the bytes where the path leads. -/
lemma write_eq_ok (done : store.write path content = .ok after) :
    ∃ location, store.locate path = .ok location ∧ Keeps store after ∧
      ∀ other, after.content? other = if other = location then some content else store.content? other := by
  obtain ⟨location, found, done⟩ := bind_eq_ok.1 done
  obtain ⟨_, located, found⟩ := bind_eq_ok.1 found
  split at found
  · cases found
  · cases found
    cases done
    refine ⟨location, located, ⟨rfl, fun _ => id⟩, fun other => ?_⟩
    rw [content?, content?, put, List.lookup_cons]
    split_ifs with same
    · rw [same, beq_self_eq_true]
    · rw [beq_false_of_ne same]
      exact lookup_filter same

/-- How writing a file may end. It succeeds with the whole content in the file. It fails with nothing done, or
with the beginning of the content in the file, which may be as little as nothing but not all of it. -/
inductive Written (store : FileStore) (path : Path) (content : ByteArray) : Bool × FileStore → Prop where
  | whole {mid after : FileStore} :
    Grows store mid →
    mid.write path content = .ok after →
    Written store path content (true, after)
  | refused {after : FileStore} :
    Grows store after →
    Written store path content (false, after)
  | stopped {mid after : FileStore} {count : Nat} :
    Grows store mid →
    count < content.size →
    mid.write path (content.extract 0 count) = .ok after →
    Written store path content (false, after)

/-- Writing a file that is open has the effect of one write, of the bytes that reach the file. -/
lemma write_of_locateFile (found : store.locateFile path = .ok location) :
    store.later.write path content = .ok ((store.put location part).later.put location content) := by
  have opened : (store.put location part).later = store.later.put location part := rfl
  rw [opened, put_put]
  exact bind_eq_ok.2 ⟨location, locateFile_later found, rfl⟩

/-- All bytes are the beginning of themselves. -/
lemma extract_of_size_le {count : Nat} (all : content.size ≤ count) : content.extract 0 count = content := by
  rw [ByteArray.ext_iff, ByteArray.data_extract]
  exact Array.extract_eq_self_of_le all

/-- Whatever incidents there are, writing a file ends in one of these ways. -/
theorem writeFile_written : Written store path content (store.writeFile path content) := by
  fun_cases writeFile path content store with
  | case1 => exact .refused later_grows
  | case2 => exact .refused later_grows
  | case3 _ location found => exact .whole (later_grows.trans later_grows) (write_of_locateFile found)
  | case4 _ location found _ count =>
    by_cases all : content.size ≤ count
    · rw [decide_eq_true all, extract_of_size_le all]
      exact .whole (later_grows.trans later_grows) (write_of_locateFile found)
    · rw [decide_eq_false all]
      exact .stopped (later_grows.trans later_grows) (Nat.lt_of_not_le all) (write_of_locateFile found)

/-! ## Outputs -/

/-- The bytes of the last one among some outputs, given with their paths, whose path leads to a location. -/
def lastAt (store : FileStore) (outputs : List (String × ByteArray)) (location : Location) :
    Option ByteArray :=
  (outputs.reverse.find? fun output =>
    (store.locate (.ofString output.1)).toOption = some location).map (·.2)

/-- Outputs were put into files, one after the other. A file has the bytes of the last output for it, and
where there is none it has what it had before. -/
structure Wrote (store : FileStore) (outputs : List (String × ByteArray)) (after : FileStore) : Prop
    extends Keeps store after where
  located : ∀ output ∈ outputs, ∃ location, after.locate (.ofString output.1) = .ok location
  content : ∀ location, after.content? location =
    (after.lastAt outputs location).or (store.content? location)

section outputs
variable {outputs : List (String × ByteArray)} {name : String}

/-- The last output for a place is the same one as long as no directory is lost. -/
lemma Keeps.lastAt (keeps : Keeps mid after)
    (located : ∀ output ∈ outputs, ∃ location, mid.locate (.ofString output.1) = .ok location) :
    after.lastAt outputs location = mid.lastAt outputs location := by
  refine congrArg _ (List.find?_congr fun output mem => ?_)
  obtain ⟨place, found⟩ := located output (List.mem_reverse.1 mem)
  rw [found, keeps.locate found]

/-- An output is the last one for the place where its path leads. -/
lemma lastAt_append : store.lastAt (outputs ++ [(name, content)]) location =
    if (store.locate (.ofString name)).toOption = some location then some content
    else store.lastAt outputs location := by
  rw [lastAt, List.reverse_append, List.reverse_singleton, List.singleton_append, List.find?_cons]
  split_ifs with found
  · rw [decide_eq_true found]
    rfl
  · rw [decide_eq_false found]
    rfl

/-- At the start nothing is written. -/
lemma Wrote.refl : Wrote store [] store :=
  ⟨Keeps.refl, nofun, fun _ => rfl⟩

/-- Directories that are made on the way change no contents. -/
lemma Wrote.grows (wrote : Wrote store outputs mid) (grows : Grows mid after) : Wrote store outputs after := by
  refine ⟨wrote.toKeeps.trans grows.toKeeps, fun output mem => ?_, fun location => ?_⟩
  · obtain ⟨location, found⟩ := wrote.located output mem
    exact ⟨location, grows.locate found⟩
  · rw [grows.lastAt wrote.located, ← wrote.content, content?, content?, grows.files]

/-- One more write puts one more output into its file. -/
lemma Wrote.write (wrote : Wrote store outputs mid) (done : mid.write (.ofString name) content = .ok after) :
    Wrote store (outputs ++ [(name, content)]) after := by
  obtain ⟨place, found, keeps, contents⟩ := write_eq_ok done
  refine ⟨wrote.toKeeps.trans keeps, List.forall_mem_append.2 ⟨fun earlier mem => ?_, ?_⟩, fun location => ?_⟩
  · obtain ⟨location, led⟩ := wrote.located earlier mem
    exact ⟨location, keeps.locate led⟩
  · exact List.forall_mem_singleton.2 ⟨place, keeps.locate found⟩
  · have led : (after.locate (.ofString name)).toOption = some place := by
      rw [keeps.locate found]
      rfl
    rw [contents, lastAt_append, led, keeps.lastAt wrote.located, wrote.content]
    by_cases same : location = place
    · rw [if_pos same, if_pos (congrArg some same.symm)]
      rfl
    · rw [if_neg same, if_neg fun led => same (Option.some.inj led).symm]

end outputs

end CapabilityRegistry.FileStore
