import ScrollStory.CommandLine.Report

/-!
# The program

Runs commands on the files of the machine and shows the reports.
-/

namespace ScrollStory

namespace CommandLine

/-- Whether an action ends without an error. -/
def succeeds (action : IO Unit) : IO Bool := do
  try
    action
    return true
  catch _ => return false

/-- The content of a file of the machine. -/
def readMachineFile (path : Path) : IO (Option ByteArray) := do
  try
    return some (← IO.FS.readBinFile path.text)
  catch _ => return none

/-- Creates a file of the machine. -/
def createMachineFile (path : Path) (content : ByteArray) : IO Creation := do
  try
    let handle ← IO.FS.Handle.mk path.text .writeNew
    handle.write content
    return .created
  catch
    | .alreadyExists .. => return .occupied
    | _ => return .refused

/-- Whether there is anything of the machine where a path leads. Nothing is there if the path leads
through a plain file, or if the machine does not take it. -/
def isMachineOccupied (path : Path) : IO Bool :=
  succeeds (discard (IO.FS.realPath path.text))

/-- Removes a directory of the machine, if there is anything. -/
def clearMachineDirectory (path : Path) : IO Bool := do
  if ← isMachineOccupied path then
    succeeds (IO.FS.removeDirAll path.text)
  else
    return true

instance : FileAccess IO where
  read := readMachineFile
  isFile path := return (← readMachineFile path).isSome
  makeDirectories path := succeeds (IO.FS.createDirAll path.text)
  write path content := succeeds (IO.FS.writeBinFile path.text content)
  create := createMachineFile
  move source target := succeeds (IO.FS.rename source.text target.text)
  removeFile path := succeeds (IO.FS.removeFile path.text)
  clear := clearMachineDirectory

end CommandLine

end ScrollStory

/-- Runs the command that the arguments ask for and shows its report. -/
def main (arguments : List String) : IO UInt32 := do
  let mirror ← IO.getEnv "SCROLLY_CDN_URL"
  let report ← ScrollStory.CommandLine.run arguments mirror
  IO.print report.shown
  IO.eprint report.complaint
  return report.code.toUInt32
