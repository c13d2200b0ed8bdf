import Keystroke.Script.Basic
import Keystroke.Text.Integer

namespace Keystroke.Script

/-!
# Advice about a script

Advice never stops a compilation.  A script without commands and delays of more
than a minute are probably mistakes.
-/

/-- The longest delay, in milliseconds, that is not remarked on. -/
def longDelay :
    Int :=
  60000

/-- The advice about one command. -/
def commandAdvice?
    (command : Command) :
    Option String :=
  if command.kind = .delay then
    match command.firstParameter?.bind Text.integer? with
    | none =>
        none
    | some duration =>
        if duration > longDelay then
          some
            ("Line " ++ command.line.repr ++ ": Very long delay (" ++
              duration.repr ++ "ms) - this might be an error")
        else
          none
  else
    none

/-- The advice about a script, whatever the device. -/
def advice
    (script : Script) :
    List String :=
  (if script.isEmpty then ["Script contains no commands"] else []) ++
    script.commands.filterMap commandAdvice?

end Keystroke.Script
