namespace Keystroke

/-!
# What can go wrong

A failure ends a compilation or a run of the command line.  Reading a script
fails at a line, encoding fails with a message that ends in the text of a
command, and files fail with a fault of the file system.
-/

/-- Why a file could not be read or written. -/
inductive FileFault where
  | notFound
  | isFolder
  | notFolder
  | alreadyExists
  | notText
  | other (description : String)
  deriving Repr, DecidableEq

namespace FileFault

/-- The fault in words. -/
def message :
    FileFault → String
  | .notFound => "No such file or directory (os error 2)"
  | .isFolder => "Is a directory (os error 21)"
  | .notFolder => "Not a directory (os error 20)"
  | .alreadyExists => "File exists (os error 17)"
  | .notText => "stream did not contain valid UTF-8"
  | .other description => description

end FileFault

/-- Why a compilation or a run of the command line ended. -/
inductive Failure where
  | script
      (source : String)
      (line : Nat)
      (message : String)
  | encode
      (message : String)
  | unknownDevice
      (id : String)
  | read
      (path : String)
      (fault : FileFault)
  | write
      (path : String)
      (fault : FileFault)
  deriving Repr, DecidableEq

namespace Failure

/-- The failure in words. -/
def message :
    Failure → String
  | .script source line message =>
      "Error in " ++ source ++ ", line " ++ line.repr ++ ": " ++ message
  | .encode message =>
      "Failed to encode script: " ++ message
  | .unknownDevice id =>
      "Unknown device '" ++ id ++ "'"
  | .read path fault =>
      "Failed to read script file '" ++ path ++ "': " ++ fault.message
  | .write path fault =>
      "Failed to write output file '" ++ path ++ "': " ++ fault.message

/-- The line at which a script could not be read. -/
def line? :
    Failure → Option Nat
  | .script _ line _ => some line
  | _ => none

end Failure

end Keystroke
