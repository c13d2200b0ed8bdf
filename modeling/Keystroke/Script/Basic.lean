import Keystroke.Command.Basic

namespace Keystroke

/-!
# Scripts

A script is a list of commands with the name of the text it was read from and
the number of lines of that text.
-/

/-- What a program says about the script it was made from. -/
structure Script.Summary where
  source : String
  totalCommands : Nat
  totalLines : Nat
  deriving Repr, DecidableEq

/-- Commands in order, and where they come from. -/
structure Script where
  commands : List Command
  source : String
  totalLines : Nat
  deriving Repr, DecidableEq

namespace Script

/-- The number of commands. -/
def totalCommands
    (script : Script) :
    Nat :=
  script.commands.length

/-- The source and the numbers of commands and lines. -/
def summary
    (script : Script) :
    Summary where
  source := script.source
  totalCommands := script.totalCommands
  totalLines := script.totalLines

/-- Whether there are no commands. -/
def isEmpty
    (script : Script) :
    Bool :=
  script.commands.isEmpty

end Script

end Keystroke
