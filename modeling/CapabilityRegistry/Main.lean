import CapabilityRegistry.Session

/-!
# The program

Runs a session on the files of the disk.
-/

namespace CapabilityRegistry

/-- An action succeeds. -/
def succeeds (action : IO Unit) : IO Bool := do
  try
    action
    return true
  catch _ =>
    return false

/-- Operations on the files of the disk. -/
def diskAccess : FileAccess IO where
  isPresent path := succeeds (discard (IO.FS.realPath path))
  readText path := do
    try
      return some (← IO.FS.readFile path)
    catch _ =>
      return none
  makeDirectories path := succeeds (IO.FS.createDirAll path)
  writeText path text := succeeds (IO.FS.writeFile path text)

end CapabilityRegistry

/-- Runs the session of the arguments. -/
def main (arguments : List String) : IO UInt32 := do
  let session ← CapabilityRegistry.Session.ofArguments CapabilityRegistry.diskAccess arguments
  for line in session.output do
    IO.println line
  if let some failure := session.failure then
    IO.eprintln failure
  return session.exitCode
