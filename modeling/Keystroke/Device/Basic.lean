import Keystroke.Device.Vocabulary

namespace Keystroke

/-!
# Devices

A device is a board that a program is generated for.
-/

/-- A target of code generation. -/
structure Device where
  id : String
  name : String
  vocabulary : Vocabulary
  family : Family
  extension : String
  deriving Repr, DecidableEq

namespace Device

/-- A device with the vocabulary and extension of its family. -/
def standard
    (id : String)
    (name : String)
    (family : Family) :
    Device where
  id := id
  name := name
  vocabulary := Vocabulary.standard family
  family := family
  extension := family.extension

/-- The name of a program's file. -/
def fileName
    (device : Device)
    (stem : String) :
    String :=
  stem ++ "." ++ device.extension

end Device

end Keystroke
