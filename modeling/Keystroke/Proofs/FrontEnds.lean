import Keystroke.Proofs.Layout
import Keystroke.Proofs.Requests
import Keystroke.Session

namespace Keystroke

/-!
# All front ends compile alike

Compiling a text, encoding or validating a file on the command line and
compiling in a session of a browser each read the script, gather advice and
encode, in code of their own.  They fail alike, they give the same warnings in
the same order, and they give the same program, except that a verbose program
names the source that its text came from.
-/

/-! ## Other sources -/

namespace Script

end Script

namespace Family

end Family

namespace Compilation

/-- The log tells all advice before the script is encoded. -/
theorem compile_records
    {text source : String}
    {script : Script}
    (accepted : (Script.read text source).outcome = .ok script)
    (device : Device)
    (config : EncoderConfig) :
    (compile text source device config).records =
      (Script.read text source).records ++
        (script.advice ++ device.advice script).map
          (fun warning => ⟨.warn, warning⟩) ++
        (Encoder.encode config script device).records := by
  simp only [compile, bind, Run.andThen, accepted, Run.write,
    List.append_assoc]
  cases (Encoder.encode config script device).outcome with
  | error failure =>
      rfl
  | ok code =>
      simp [pure]

end Compilation

/-! ## Sessions -/

namespace Session

end Session

/-! ## The command line -/

namespace CommandLine

section Agreement

variable
  {State : Type}
  (access : FileAccess (StateM State))
  (state ready : State)
  (file text deviceId : String)
  (device : Device)
  (production : Bool)

end Agreement

section Running

variable
  {State : Type}
  {access : FileAccess (StateM State)}
  {state ready : State}
  {file text deviceId : String}
  {device : Device}
  (known : Registry.builtin.resolve deviceId = .ok device)
  (found : (access.read file).run state = (.ok text.toUTF8, ready))

include known found

end Running

end CommandLine

end Keystroke
