import Keystroke.Command.Basic
import Keystroke.Plan.Action

namespace Keystroke

/-!
# The context of a command

While a script is encoded, the context holds what earlier commands have set:
whether the program is verbose, the delay after every command, and the command
before the current one.
-/

/-- What earlier commands have set. -/
structure Context where
  safeMode : Bool
  defaultDelay : Text.Milliseconds
  previous? : Option Command
  deriving Repr, DecidableEq

namespace Context

/-- The context of the first command. -/
def initial
    (safeMode : Bool) :
    Context where
  safeMode := safeMode
  defaultDelay := 0
  previous? := none

/-- The context with another safe mode. -/
def withSafeMode
    (context : Context)
    (safeMode : Bool) :
    Context :=
  { context with safeMode := safeMode }

/-- The context with another delay after every command. -/
def withDefaultDelay
    (context : Context)
    (defaultDelay : Text.Milliseconds) :
    Context :=
  { context with defaultDelay := defaultDelay }

/-- The context after a command. -/
def withPrevious
    (context : Context)
    (command : Command) :
    Context :=
  { context with previous? := some command }

/-- The context after a change. -/
def apply
    (context : Context) :
    Change → Context
  | .nothing => context
  | .safeMode enabled => context.withSafeMode enabled
  | .defaultDelay duration => context.withDefaultDelay duration

end Context

end Keystroke
