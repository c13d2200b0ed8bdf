import Keystroke.CommandLine.Arguments
import Keystroke.CommandLine.Performing

namespace Keystroke.CommandLine

/-!
# Running the command line
-/

/-- Run the command line on its arguments. -/
def run
    {Effect : Type → Type}
    [Monad Effect]
    (access : FileAccess Effect)
    (arguments : List String) :
    Effect Outcome :=
  runWith Invocation.ofArguments access arguments

end Keystroke.CommandLine
