namespace Keystroke

/-!
# Families of devices

Devices of one family run programs in the same language, so a family decides
how a program is written and how its file is named.
-/

/-- The languages that programs are written in. -/
inductive Family where
  | circuitPython
  | arduino
  deriving Repr, DecidableEq

namespace Family

/-- The name of the family. -/
def name :
    Family → String
  | .circuitPython => "CircuitPython"
  | .arduino => "Arduino"

/-- The usual extension of a program's file. -/
def extension :
    Family → String
  | .circuitPython => "py"
  | .arduino => "ino"

end Family

end Keystroke
