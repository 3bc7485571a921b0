import CapabilityRegistry.Proofs.FileStore
import CapabilityRegistry.Run

/-!
# Runs and what they leave behind

A run prepares all its outputs before it writes the first one, so that a registry without a model and a
model without outputs leave everything alone. Writing goes from output to output. Where one of them cannot
be written the run stops. Those before it stay written, and so does the beginning of its own text if its file
was open by then: `wrote_of_failed` says which contents all files have after a run that failed, whatever made it
fail, and `written_belowBindings` that something may indeed have been written.
-/

namespace CapabilityRegistry.Run

variable {store mid after : FileStore} {configuration : Configuration} {error : RunError} {summary : Summary}

/-! ## Computations on a store -/

section computations
variable {ε ε' α β : Type} {x : ExceptT ε (StateM FileStore) α} {f : α → ExceptT ε (StateM FileStore) β}
  {e : ε}

/-- A given result takes no operation on the store. -/
lemma mk_run {result : Except ε α} :
    (ExceptT.mk (pure result) : ExceptT ε (StateM FileStore) α) store = (result, store) :=
  rfl

/-- Errors that are reported in another way leave the store as it is. -/
lemma adapt_run {report : ε → ε'} : x.adapt report store = ((x store).1.mapError report, (x store).2) :=
  rfl

/-- After an operation the others go on with its answer and its store. -/
lemma lift_bind_run {operation : StateM FileStore α} :
    ((liftM operation : ExceptT ε (StateM FileStore) α) >>= f) store =
      f (operation store).1 (operation store).2 :=
  rfl

/-- After an error nothing else is done. -/
lemma bind_run : (x >>= f) store = match x store with
    | (.ok a, mid) => f a mid
    | (.error e, mid) => (.error e, mid) := by
  change ExceptT.bindCont f (x store).1 (x store).2 = _
  rcases x store with ⟨_ | _, _⟩
  · rfl
  · rfl

/-- A sequence of two steps fails where one of them does. -/
lemma bind_run_eq_error : (x >>= f) store = (.error e, after) ↔
    x store = (.error e, after) ∨ ∃ a mid, x store = (.ok a, mid) ∧ f a mid = (.error e, after) := by
  rw [bind_run]
  rcases x store with ⟨e' | a, mid⟩
  · constructor
    · intro failed
      cases failed
      exact .inl rfl
    · intro h
      obtain failed | ⟨_, _, ⟨⟩, _⟩ := h
      cases failed
      rfl
  · constructor
    · exact fun failed => .inr ⟨a, mid, rfl, failed⟩
    · intro h
      obtain ⟨_, _, same, failed⟩ := h.resolve_left nofun
      cases same
      exact failed

/-- A sequence of two steps succeeds when both steps do. -/
lemma bind_run_eq_ok {b : β} : (x >>= f) store = (.ok b, after) ↔
    ∃ a mid, x store = (.ok a, mid) ∧ f a mid = (.ok b, after) := by
  rw [bind_run]
  rcases x store with ⟨e' | a, mid⟩
  · exact ⟨nofun, nofun⟩
  · constructor
    · exact fun done => ⟨a, mid, rfl, done⟩
    · intro h
      obtain ⟨_, _, same, done⟩ := h
      cases same
      exact done

end computations

/-! ## One output -/

/-- An output, a text with its path, as the bytes that its file is to have. -/
def stored (output : String × String) : String × ByteArray :=
  (output.1, output.2.toUTF8)

/-- How writing an output may fail: the error that tells of it, and what is in the file of the output then,
where this is not what was there before. -/
inductive WriteFailure (output : String × String) : RunError → List (String × ByteArray) → Prop where
  /-- The directory cannot be made. -/
  | directory {parent : Path} :
    (Path.ofString output.1).parent? = some parent →
    WriteFailure output (.directory parent.toString) []
  /-- The file cannot be opened. -/
  | unopened : WriteFailure output (.file output.1) []
  /-- The file has been opened, which empties it, and has got the beginning of the text. -/
  | stopped {count : Nat} :
    count < output.2.toUTF8.size →
    WriteFailure output (.file output.1) [(output.1, output.2.toUTF8.extract 0 count)]

/-- How writing an output may end, behind outputs that have been written: with the output in its file, or with
what a failure leaves of it. -/
inductive Attempted (store : FileStore) (outputs : List (String × ByteArray)) (output : String × String) :
    Except RunError Unit × FileStore → Prop where
  | written {after : FileStore} :
    store.Wrote (outputs ++ [stored output]) after →
    Attempted store outputs output (.ok (), after)
  | failed {error : RunError} {part : List (String × ByteArray)} {after : FileStore} :
    WriteFailure output error part →
    store.Wrote (outputs ++ part) after →
    Attempted store outputs output (.error error, after)

section output
variable {output : String × String} {outputs : List (String × ByteArray)}

/-- A failure may leave nothing of an output. -/
lemma Attempted.unchanged (failure : WriteFailure output error []) (wrote : store.Wrote outputs after) :
    Attempted store outputs output (.error error, after) := by
  refine .failed failure ?_
  rw [List.append_nil]
  exact wrote

/-- Puts an output into its file, without looking after its directory. -/
def putOutput (output : String × String) : ExceptT RunError (StateM FileStore) Unit := do
  if !(← FileStore.access.writeText output.1 output.2) then throw (.file output.1)

/-- The file of an output is written as any file is. -/
lemma putOutput_attempted (wrote : store.Wrote outputs mid) :
    Attempted store outputs output (putOutput output mid) := by
  have written : mid.Written (.ofString output.1) output.2.toUTF8
      (FileStore.access.writeText output.1 output.2 mid) := FileStore.writeFile_written
  rw [putOutput, lift_bind_run]
  generalize FileStore.access.writeText output.1 output.2 mid = result at written ⊢
  cases written with
  | whole grows done => exact .written ((wrote.grows grows).write done)
  | refused grows => exact .unchanged .unopened (wrote.grows grows)
  | stopped grows less done => exact .failed (.stopped less) ((wrote.grows grows).write done)

/-- Whatever incidents there are, writing an output ends in one of these ways. -/
theorem writeOutput_attempted (wrote : store.Wrote outputs mid) :
    Attempted store outputs output (writeOutput FileStore.access output.1 output.2 mid) := by
  -- the directory comes first where there is one, and all ways go on with `putOutput`
  have put : (do if !(← FileStore.access.writeText output.1 output.2) then throw (.file output.1)) =
      putOutput output := rfl
  rw [writeOutput, put]
  cases found : (Path.ofString output.1).parent? with
  | none => exact putOutput_attempted wrote
  | some parent =>
    dsimp only
    split_ifs with named
    · have grows : mid.Grows (FileStore.access.makeDirectories parent.toString mid).2 :=
        FileStore.makeDirectories_grows
      rw [lift_bind_run]
      cases (FileStore.access.makeDirectories parent.toString mid).1 with
      | false => exact .unchanged (.directory found) (wrote.grows grows)
      | true => exact putOutput_attempted (wrote.grows grows)
    · exact putOutput_attempted wrote

/-- An output that cannot be written leaves the beginning of its text at most. -/
lemma wrote_of_writeOutput_error (wrote : store.Wrote outputs mid)
    (failed : writeOutput FileStore.access output.1 output.2 mid = (.error error, after)) :
    ∃ part, WriteFailure output error part ∧ store.Wrote (outputs ++ part) after := by
  have attempted : Attempted store outputs output _ := writeOutput_attempted wrote
  rw [failed] at attempted
  cases attempted with
  | failed failure wrote => exact ⟨_, failure, wrote⟩

/-- An output that can be written is in its file then. -/
lemma wrote_of_writeOutput_ok (wrote : store.Wrote outputs mid)
    (done : writeOutput FileStore.access output.1 output.2 mid = (.ok (), after)) :
    store.Wrote (outputs ++ [stored output]) after := by
  have attempted : Attempted store outputs output _ := writeOutput_attempted wrote
  rw [done] at attempted
  cases attempted with
  | written wrote => exact wrote

end output

/-! ## All outputs -/

/-- Writes outputs one after the other. -/
def writeAll (outputs : List (String × String)) : ExceptT RunError (StateM FileStore) Unit :=
  outputs.forM fun output => writeOutput FileStore.access output.1 output.2

section outputs
variable {output : String × String} {outputs : List (String × String)} {done : List (String × ByteArray)}

/-- The first output is written first. -/
lemma writeAll_cons : writeAll (output :: outputs) =
    writeOutput FileStore.access output.1 output.2 >>= fun _ => writeAll outputs :=
  rfl

/-- Writing stops at the first output that cannot be written. -/
lemma exists_of_writeAll_error (failed : writeAll outputs store = (.error error, after)) :
    ∃ before output rest mid, outputs = before ++ output :: rest ∧ writeAll before store = (.ok (), mid) ∧
      writeOutput FileStore.access output.1 output.2 mid = (.error error, after) := by
  induction outputs generalizing store with
  | nil => cases failed
  | cons output outputs ih =>
    obtain stopped | ⟨_, next, first, others⟩ := bind_run_eq_error.1 (writeAll_cons ▸ failed)
    · exact ⟨[], output, outputs, store, rfl, rfl, stopped⟩
    · obtain ⟨before, output', rest, mid, rfl, all, stopped⟩ := ih others
      exact ⟨output :: before, output', rest, mid, rfl, bind_run_eq_ok.2 ⟨_, next, first, all⟩, stopped⟩

/-- Where writing comes to its end all outputs are in their files. -/
lemma wrote_of_writeAll (wrote : store.Wrote done mid) (all : writeAll outputs mid = (.ok (), after)) :
    store.Wrote (done ++ outputs.map stored) after := by
  induction outputs generalizing done mid with
  | nil =>
    cases all
    rw [List.map_nil, List.append_nil]
    exact wrote
  | cons output outputs ih =>
    obtain ⟨_, next, first, others⟩ := bind_run_eq_ok.1 (writeAll_cons ▸ all)
    rw [List.map_cons, List.append_cons]
    exact ih (wrote_of_writeOutput_ok wrote first) others

end outputs

/-! ## Whole runs -/

/-- The outputs of a model with the paths where a configuration wants them, in the order of writing. -/
def placed (configuration : Configuration) (model : Model) (outputs : Outputs) : List (String × String) :=
  (configuration.bindings, outputs.bindings) :: (configuration.traversal, outputs.traversal) ::
    configuration.model.toList.map fun path => (path, model.dump)

/-- The model of the registry in a store, as far as the store lets it be read. -/
def modelOf (store : FileStore) (configuration : Configuration) : Except RegistryError Model :=
  match (FileStore.access.readText configuration.registry store).1 with
  | none => .error .unreadable
  | some document => Model.parse document configuration.rules

/-- What a run has to write, and what it tells in the end. -/
def prepare (store : FileStore) (configuration : Configuration) :
    Except RunError (List (String × String) × Summary) := do
  let model ← (modelOf store configuration).mapError (.registry configuration.registry)
  let outputs ← (Outputs.ofModel model).mapError .outputs
  return (placed configuration model outputs, Summary.of model outputs)

/-- The outputs of a model are written in the order in which they are placed. -/
lemma writeOutputs_eq {model : Model} {outputs : Outputs} :
    writeOutputs FileStore.access configuration model outputs =
      writeAll (placed configuration model outputs) := by
  rw [writeOutputs, writeAll, placed]
  cases configuration.model with
  | none => rfl
  | some path => simp

/-- Reading takes one operation. -/
lemma readText_run {path : String} : (FileStore.access.readText path store).2 = store.later := by
  unfold FileStore.access FileStore.look
  dsimp only
  cases store.incident with
  | nothing => rfl
  | fault => rfl

/-- Loading a model takes one operation, that of reading the registry. -/
lemma load_run : Model.load FileStore.access configuration.registry configuration.rules store =
    (modelOf store configuration, store.later) := by
  rw [modelOf, Model.load, lift_bind_run, readText_run]
  cases (FileStore.access.readText configuration.registry store).1 with
  | none => rfl
  | some document => rfl

/-- Without outputs a run ends there. -/
lemma generate_of_error (unprepared : prepare store configuration = .error error) :
    generate FileStore.access configuration true store = (.error error, store.later) := by
  rw [generate, bind_run, adapt_run, load_run]
  obtain failed | ⟨model, loaded, failed⟩ := bind_eq_error.1 unprepared
  · rw [failed]
  · rw [loaded]
    dsimp only
    obtain failed | ⟨_, _, nothing⟩ := bind_eq_error.1 failed
    · rw [bind_run, mk_run, failed]
    · cases nothing

/-- With outputs it goes on to write them. -/
lemma generate_of_ok {outputs : List (String × String)}
    (prepared : prepare store configuration = .ok (outputs, summary)) :
    generate FileStore.access configuration true store =
      (writeAll outputs >>= fun _ => return summary) store.later := by
  obtain ⟨model, loaded, prepared⟩ := bind_eq_ok.1 prepared
  obtain ⟨texts, made, prepared⟩ := bind_eq_ok.1 prepared
  cases prepared
  rw [generate, bind_run, adapt_run, load_run, loaded]
  dsimp only
  rw [bind_run, mk_run, made]
  dsimp only
  rw [writeOutputs_eq]
  rfl

/-- A run that succeeds has written all its outputs. -/
theorem wrote_of_done (done : generate FileStore.access configuration true store = (.ok summary, after)) :
    ∃ outputs, prepare store configuration = .ok (outputs, summary) ∧
      store.Wrote (outputs.map stored) after := by
  cases prepared : prepare store configuration with
  | error e => cases (generate_of_error prepared).symm.trans done
  | ok ready =>
    obtain ⟨outputs, summary'⟩ := ready
    rw [generate_of_ok prepared] at done
    obtain ⟨_, _, all, told⟩ := bind_run_eq_ok.1 done
    cases told
    exact ⟨outputs, rfl, wrote_of_writeAll (FileStore.Wrote.refl.grows FileStore.later_grows) all⟩

/-- A run that fails has changed nothing, or it has written exactly the outputs before the one that could
not be written, and of that one the beginning at most. -/
theorem wrote_of_failed (failed : generate FileStore.access configuration true store = (.error error, after)) :
    (prepare store configuration = .error error ∧ after = store.later) ∨
      ∃ before output rest summary part,
        prepare store configuration = .ok (before ++ output :: rest, summary) ∧
        WriteFailure output error part ∧ store.Wrote (before.map stored ++ part) after := by
  cases prepared : prepare store configuration with
  | error e =>
    cases (generate_of_error prepared).symm.trans failed
    exact .inl ⟨rfl, rfl⟩
  | ok ready =>
    obtain ⟨outputs, summary⟩ := ready
    rw [generate_of_ok prepared] at failed
    obtain stopped | ⟨_, _, _, nothing⟩ := bind_run_eq_error.1 failed
    · obtain ⟨before, output, rest, mid, rfl, all, stopped⟩ := exists_of_writeAll_error stopped
      have wrote : store.Wrote (before.map stored) mid :=
        wrote_of_writeAll (FileStore.Wrote.refl.grows FileStore.later_grows) all
      obtain ⟨part, failure, wrote⟩ := wrote_of_writeOutput_error wrote stopped
      exact .inr ⟨before, output, rest, summary, part, rfl, failure, wrote⟩
    · cases nothing

/-- A store with an empty registry. -/
def registryOnly : FileStore where
  files := [(["vk.xml"], "<registry/>".toUTF8)]

/-- The traversal has to go below the file of the bindings. -/
def belowBindings : Configuration where
  registry := "vk.xml"
  bindings := "gen"
  traversal := "gen/vkjson.h"

/-- The outputs of the empty registry can be made. -/
lemma prepare_belowBindings : (prepare registryOnly belowBindings).isOk = true := by
  decide +kernel

/-- The example fails at its second output, whose directory is the file of the first one. -/
theorem wrote_of_failed_belowBindings :
    ∃ after, generate FileStore.access belowBindings true registryOnly = (.error (.directory "gen"), after) ∧
      ∃ before output rest summary part,
        prepare registryOnly belowBindings = .ok (before ++ output :: rest, summary) ∧
        WriteFailure output (.directory "gen") part ∧
        registryOnly.Wrote (before.map stored ++ part) after := by
  have failed : generate FileStore.access belowBindings true registryOnly =
      (.error (.directory "gen"), (generate FileStore.access belowBindings true registryOnly).2) :=
    Prod.ext (by decide +kernel) rfl
  obtain ⟨unprepared, _⟩ | wrote := wrote_of_failed failed
  · have prepared := prepare_belowBindings
    rw [unprepared] at prepared
    cases prepared
  · exact ⟨_, failed, wrote⟩

/-- The run fails, and its bindings are there, which were not there before. -/
theorem written_belowBindings :
    registryOnly.read? (.ofString belowBindings.bindings) = none ∧
      ∃ after, generate FileStore.access belowBindings true registryOnly =
          (.error (.directory "gen"), after) ∧
        after.read? (.ofString belowBindings.bindings) ≠ none :=
  ⟨by decide +kernel, _, Prod.ext (by decide +kernel) rfl, by decide +kernel⟩

/-- The disk is full behind the third byte of the bindings, whose file had another content before. -/
example :
    let store : FileStore := { registryOnly with
      files := (["gen"], "kept".toUTF8) :: registryOnly.files
      incidents := [.nothing, .nothing, .fault 3] }
    (generate FileStore.access belowBindings true store).2.read? (.ofString "gen") = some "//!".toUTF8 := by
  decide +kernel

end CapabilityRegistry.Run
