import Keystroke.Device.Advice
import Keystroke.Device.Registry
import Keystroke.Encoder
import Keystroke.Script.Advice
import Keystroke.Script.Reading

namespace Keystroke

/-!
# Compiling a text

A compilation reads a text, gathers the advice about it and encodes it.
-/

/-- A generated program and the advice about its script. -/
structure Compilation where
  code : String
  warnings : List String
  deriving Repr, DecidableEq

namespace Compilation

/-- Compile a text for a device. -/
def compile
    (text : String)
    (source : String)
    (device : Device)
    (config : EncoderConfig) :
    Run Failure Compilation := do
  let script ← Script.read text source
  let warnings := script.advice ++ device.advice script
  Run.write (warnings.map fun warning => { level := .warn, message := warning })
  let code ← Encoder.encode config script device
  pure { code, warnings }

end Compilation

end Keystroke
