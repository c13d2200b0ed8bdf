import Keystroke.Compilation

namespace Keystroke

/-!
# Sessions in a browser

A session compiles any number of texts for one device.  It remembers the safe
mode that was set and the warnings of the last compilation that succeeded.
-/

/-- A compiler for one device, and what it remembers. -/
structure Session where
  device : Device
  config : EncoderConfig
  warnings : List String
  deriving Repr, DecidableEq

namespace Session

/-- The name of the source of every text in a session. -/
def source :
    String :=
  "<browser>"

/-- Start a session for a built-in device. -/
def start
    (deviceId : String) :
    Except Failure Session := do
  let device ← Registry.builtin.resolve deviceId
  pure { device, config := {}, warnings := [] }

/-- Set the safe mode of the compilations to come. -/
def setSafeMode
    (session : Session)
    (safeMode : Bool) :
    Session :=
  { session with config := session.config.withSafeMode safeMode }

/-- Compile a text; only a success changes the remembered warnings. -/
def compile
    (session : Session)
    (text : String) :
    Run Failure String × Session :=
  let run := Compilation.compile text source session.device session.config
  ({ records := run.records, outcome := run.outcome.map Compilation.code },
    match run.outcome with
    | .ok compilation =>
        { session with warnings := compilation.warnings }
    | .error _ =>
        session)

/-- The remembered warnings as one text. -/
def warningText
    (session : Session) :
    String :=
  "\n".intercalate session.warnings

end Session

end Keystroke
