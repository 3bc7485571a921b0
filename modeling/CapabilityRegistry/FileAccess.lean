/-!
# Access to files

The operations on files that a run needs, in whatever monad they take effect. A run is written against
this interface, so that it can be executed on a disk and reasoned about on a value.
-/

namespace CapabilityRegistry

/-- Operations on files by the text of their paths. -/
structure FileAccess (m : Type → Type) where
  /-- There is a file or a directory at a path. -/
  isPresent : String → m Bool
  /-- The text of a file; nothing if there is no file or its bytes are no text. -/
  readText : String → m (Option String)
  /-- Makes a directory with its parents; false if that fails. A directory that is there will do. -/
  makeDirectories : String → m Bool
  /-- Puts a text into a file, in place of what is there; false if that fails. The file may be left with the
  beginning of the text then. -/
  writeText : String → String → m Bool

end CapabilityRegistry
