import Keystroke.Failure
import Keystroke.Text.Quoted

namespace Keystroke

/-!
# Reports of failures

The command line reports a failure with all its parts by name.
-/

/-- A name followed by its parts between braces. -/
def reportRecord
    (name : String)
    (parts : List (String × String)) :
    String :=
  name ++ " \x7b " ++
    ", ".intercalate (parts.map fun (label, value) => label ++ ": " ++ value) ++
    " \x7d"

namespace FileFault

/-- The report of a fault with the number the operating system gives it. -/
def reportNumbered
    (code : Nat)
    (kind : String)
    (message : String) :
    String :=
  reportRecord "Os"
    [("code", code.repr), ("kind", kind), ("message", Text.quote message)]

/-- The report of a fault. -/
def report :
    FileFault → String
  | .notFound => reportNumbered 2 "NotFound" "No such file or directory"
  | .isFolder => reportNumbered 21 "IsADirectory" "Is a directory"
  | .notFolder => reportNumbered 20 "NotADirectory" "Not a directory"
  | .alreadyExists => reportNumbered 17 "AlreadyExists" "File exists"
  | .notText =>
      reportRecord "Error"
        [("kind", "InvalidData"),
          ("message", Text.quote "stream did not contain valid UTF-8")]
  | .other description =>
      reportRecord "Error"
        [("kind", "Other"), ("message", Text.quote description)]

end FileFault

namespace Failure

/-- The report of a failure. -/
def report :
    Failure → String
  | .script source line message =>
      reportRecord "ScriptError"
        [("source_name", Text.quote source),
          ("line", line.repr),
          ("message", Text.quote message)]
  | .encode message =>
      reportRecord "EncodeError" [("message", Text.quote message)]
  | .unknownDevice id =>
      reportRecord "UnknownDevice" [("device", Text.quote id)]
  | .read path fault =>
      reportRecord "FileReadError"
        [("path", Text.quote path), ("source", fault.report)]
  | .write path fault =>
      reportRecord "FileWriteError"
        [("path", Text.quote path), ("source", fault.report)]

end Failure

end Keystroke
