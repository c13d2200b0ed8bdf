import Keystroke.CommandLine.FileSystem

namespace Keystroke.CommandLine

/-!
# Access to files

The command line needs to read and to write whole files.  It is written against
this interface, so that the same code works on real files and on a file system
that is a value.
-/

/-- Reading and writing whole files in some monad. -/
structure FileAccess
    (Effect : Type → Type) where
  read : String → Effect (Except FileFault ByteArray)
  write : String → String → Effect (Except FileFault Unit)

namespace FileSystem

/-- Reading and writing the files of a file system that is the state. -/
def access :
    FileAccess (StateM FileSystem) where
  read path := do
    let system ← get
    return system.read path
  write path text := do
    let system ← get
    match system.write path text.toUTF8 with
    | .ok next =>
        set next
        return .ok ()
    | .error fault =>
        return .error fault

end FileSystem

end Keystroke.CommandLine
