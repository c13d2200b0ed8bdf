import Keystroke.CommandLine.Execution

namespace Keystroke.CommandLine

/-!
# The program

The command line on the files of the machine it runs on.
-/

/-- The fault that an error of the operating system stands for. -/
def faultOfError :
    IO.Error → FileFault
  | .noFileOrDirectory _ _ _ =>
      .notFound
  | .alreadyExists _ _ _ =>
      .alreadyExists
  | .inappropriateType _ code _ =>
      if code = 21 then .isFolder else .notFolder
  | error =>
      .other error.toString

/-- Do something with files and keep the fault if it fails. -/
def keepFault
    {Value : Type}
    (action : IO Value) :
    IO (Except FileFault Value) := do
  match ← action.toBaseIO with
  | .ok value =>
      return .ok value
  | .error error =>
      return .error (faultOfError error)

/-- Whether a path leads to a folder: only there does its own entry exist. -/
def isMachineFolder
    (path : String) :
    IO Bool := do
  match ← keepFault (IO.FS.createDir (path ++ "/.")) with
  | .error .alreadyExists =>
      return true
  | _ =>
      return false

/-- Make one folder, or keep the folder that is there. -/
def ensureMachineFolder
    (path : String) :
    IO (Except FileFault Unit) := do
  match ← keepFault (IO.FS.createDir path) with
  | .error .alreadyExists =>
      if ← isMachineFolder path then
        return .ok ()
      else
        return .error .alreadyExists
  | result =>
      return result

/--
Make a folder together with the folders that lead to it.  The components are
given from the last to the first.
-/
def ensureMachineFolders
    (start : String) :
    List String → IO (Except FileFault Unit)
  | [] =>
      return .ok ()
  | last :: earlier => do
      let path := start ++ "/".intercalate (last :: earlier).reverse
      match ← ensureMachineFolder path with
      | .error .notFound =>
          match ← ensureMachineFolders start earlier with
          | .error fault =>
              return .error fault
          | .ok () =>
              ensureMachineFolder path
      | result =>
          return result

/-- Reading and writing the files of the machine. -/
def machineFiles :
    FileAccess IO where
  read path :=
    keepFault (IO.FS.readBinFile path)
  write path text := do
    let start := if Path.isAbsolute path then "/" else ""
    match ← ensureMachineFolders start (Path.parent path).reverse with
    | .error fault =>
        return .error fault
    | .ok () =>
        keepFault (IO.FS.writeFile path text)

end Keystroke.CommandLine

/-- Run the command line and end with its status. -/
def main
    (arguments : List String) :
    IO UInt32 := do
  let outcome ←
    Keystroke.CommandLine.run Keystroke.CommandLine.machineFiles arguments
  if outcome = .rejected then
    IO.eprint Keystroke.CommandLine.usage
  IO.print outcome.output
  IO.eprint outcome.complaint
  return outcome.exitCode.toUInt32
