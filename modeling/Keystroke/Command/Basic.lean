import Keystroke.Command.Kind

namespace Keystroke

/-!
# Commands

A command keeps the line it stands on and its text there, so that messages
about it can name both.
-/

/-- One command of a script. -/
structure Command where
  kind : Kind
  line : Nat
  rawText : String
  parameters : List String
  deriving Repr, DecidableEq

namespace Command

/-- The parameter that most commands take. -/
def firstParameter?
    (command : Command) :
    Option String :=
  command.parameters.head?

end Command

end Keystroke
