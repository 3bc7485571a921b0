import CapabilityRegistry.FileAccess
import CapabilityRegistry.Path

/-!
# Stores of files

The files and directories below a root, as a value. A path is followed piece by piece through
directories that exist; only its last piece may name something new. What paths do not decide, such as a full
disk, is part of the value as well: the incidents that the next operations meet. Main definition:
`FileStore.access`, the operations on files as changes of a store.
-/

namespace CapabilityRegistry

/-- The names from the root to a file or directory. -/
abbrev Location := List String

/-- Why an operation on a file fails. -/
inductive FileFault where
  | missing
  | alreadyPresent
  | noDirectory
  | noFile
  /-- No file can have the path. -/
  | unusablePath
  /-- The operation met with a fault that its path does not decide. -/
  | refused
  deriving DecidableEq, Repr

/-- What an operation may meet with, whatever its path is. -/
inductive Incident where
  | nothing
  /-- A right is missing, the disk is full or the medium has failed. A write has put so many bytes into its
  file before. -/
  | fault (written : Nat)
  deriving DecidableEq, Repr

/-- Files and directories. -/
structure FileStore where
  /-- Where relative paths start. -/
  workingDirectory : Location := []
  directories : List Location := []
  files : List (Location × ByteArray) := []
  /-- What the operations to come will meet with, in their order, and nothing after that. -/
  incidents : List Incident := []

namespace FileStore

/-- How many bytes a name may have. -/
def nameLimit : Nat := 255

/-- How many bytes a path may have. -/
def pathLimit : Nat := 4095

variable (store : FileStore)

/-- There is a directory at a location. Those above the working directory exist. -/
def isDirectory (location : Location) : Bool :=
  location.isPrefixOf store.workingDirectory || store.directories.contains location

/-- The bytes of the file at a location. -/
def content? (location : Location) : Option ByteArray :=
  store.files.lookup location

/-- There is a file or a directory at a location. -/
def isPresent (location : Location) : Bool :=
  store.isDirectory location || (store.content? location).isSome

/-- Follows pieces from a location. Each one needs a directory to be looked up in. -/
def follow (location : Location) : List String → Except FileFault Location
  | [] => .ok location
  | piece :: rest =>
    if !store.isDirectory location then
      .error (if store.isPresent location then .noDirectory else .missing)
    else if piece = "" ∨ piece = "." then follow location rest
    else if piece = ".." then follow location.dropLast rest
    else if nameLimit < piece.utf8ByteSize then .error .unusablePath
    else follow (location ++ [piece]) rest

/-- The location of a path. The empty path has none. -/
def locate (path : Path) : Except FileFault Location :=
  let spelling := path.toString
  if spelling.isEmpty then .error .missing
  else if spelling.toList.contains '\x00' || pathLimit < spelling.utf8ByteSize then .error .unusablePath
  else store.follow (if path.absolute then [] else store.workingDirectory) path.pieces.reverse

/-- There is a file or a directory at a path. -/
def hasPath (path : Path) : Bool :=
  (store.locate path).toOption.any store.isPresent

/-- There is a directory at a path. -/
def hasDirectory (path : Path) : Bool :=
  (store.locate path).toOption.any store.isDirectory

/-- The bytes of the file at a path. -/
def read? (path : Path) : Option ByteArray := do
  store.content? (← (store.locate path).toOption)

/-- The text of the file at a path. -/
def readText? (path : Path) : Option String := do
  String.fromUTF8? (← store.read? path)

/-- What the next operation meets with. -/
def incident : Incident :=
  store.incidents.headD .nothing

/-- The store as it is when the next operation has met with its incident. -/
def later : FileStore :=
  { store with incidents := store.incidents.tail }

/-- What an operation finds that changes nothing, or another answer if it fails. -/
def look {α : Type} (answer : FileStore → α) (otherwise : α) (store : FileStore) : α × FileStore :=
  match store.incident with
  | .nothing => (answer store.later, store.later)
  | .fault _ => (otherwise, store.later)

/-- The location of the file that a path names or may name. -/
def locateFile (path : Path) : Except FileFault Location := do
  let location ← store.locate path
  if store.isDirectory location then throw .noFile
  return location

/-- Puts bytes into the file at a location, in place of what is there. -/
def put (location : Location) (content : ByteArray) : FileStore :=
  { store with files := (location, content) :: store.files.filter fun file => file.1 != location }

/-- Puts bytes into the file at a path, all at once. -/
def write (path : Path) (content : ByteArray) : Except FileFault FileStore := do
  return store.put (← store.locateFile path) content

/-- Writes a file in two operations, as it is done on a disk. The first one opens the file, which is empty
then, whether it was there or not. The second one fills it with the bytes, and may fail behind any of them.
Tells whether all of them are written. -/
def writeFile (path : Path) (content : ByteArray) (store : FileStore) : Bool × FileStore :=
  match store.incident with
  | .fault _ => (false, store.later)
  | .nothing =>
    match store.later.locateFile path with
    | .error _ => (false, store.later)
    | .ok location =>
      let opened := store.later.put location .empty
      match opened.incident with
      | .nothing => (true, opened.later.put location content)
      | .fault written =>
        (content.size ≤ written, opened.later.put location (content.extract 0 written))

/-- Makes one directory. -/
def makeDirectory (path : Path) (store : FileStore) : Except FileFault Unit × FileStore :=
  match store.incident with
  | .fault _ => (.error .refused, store.later)
  | .nothing =>
    match store.later.locate path with
    | .error fault => (.error fault, store.later)
    | .ok location =>
      if store.later.isPresent location then (.error .alreadyPresent, store.later)
      else (.ok (), { store.later with directories := location :: store.directories })

/-- Makes a directory, its parents first if they are missing. Tells whether the directory is there; the
parents that were made stay. -/
def makeDirectories (store : FileStore) (path : Path) : Bool × FileStore :=
  if path.toString.isEmpty then (true, store)
  else
    match store.makeDirectory path with
    | (.ok (), store) => (true, store)
    | (.error .missing, store) =>
      match found : path.parent? with
      | none => (false, store)
      | some parent =>
        have _shorter := Path.parent?_shorter found
        match makeDirectories store parent with
        | (false, store) => (false, store)
        | (true, store) =>
          match store.makeDirectory path with
          | (.ok (), store) => (true, store)
          | (.error _, store) => store.look (·.hasDirectory path) false
    | (.error _, store) => store.look (·.hasDirectory path) false
termination_by path.pieces.length

/-- Operations on files as changes of a store. -/
def access : FileAccess (StateM FileStore) where
  isPresent path := look (·.hasPath (.ofString path)) false
  readText path := look (·.readText? (.ofString path)) none
  makeDirectories path store := store.makeDirectories (.ofString path)
  writeText path text := writeFile (.ofString path) text.toUTF8

end FileStore

end CapabilityRegistry
