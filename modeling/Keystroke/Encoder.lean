import Keystroke.Code.Rendering
import Keystroke.Context
import Keystroke.Failure
import Keystroke.Plan.Planning

namespace Keystroke

/-!
# Encoding a script for a device

The generated program is a header, one block for every command and a footer.
The header is verbose if safe mode is on at first; a block is verbose if safe
mode is on before its command; the footer is verbose if safe mode is on in the
end.
-/

/-- The settings of an encoder. -/
structure EncoderConfig where
  safeMode : Bool := true
  startupDelay : Text.Milliseconds := 2000
  pause : Text.Milliseconds := 5000
  deriving Repr, DecidableEq

namespace EncoderConfig

/-- The settings with another safe mode. -/
def withSafeMode
    (config : EncoderConfig)
    (safeMode : Bool) :
    EncoderConfig :=
  { config with safeMode := safeMode }

end EncoderConfig

namespace Command

/-- Whether the default delay follows the command. -/
def takesDefaultDelay
    (command : Command) :
    Bool :=
  !command.kind.isComment && command.kind != .defaultDelay

end Command

namespace Encoder

/-- The comment that repeats the command with its position in the script. -/
def echo
    (family : Family)
    (context : Context)
    (position : Nat)
    (command : Command) :
    List CodeLine :=
  if context.safeMode then
    [family.commentLine
      ("Command " ++ position.repr ++ ": " ++ command.rawText)]
  else
    []

/-- The wait after a command, if one is set. -/
def trailingDelay
    (family : Family)
    (context : Context)
    (command : Command) :
    List CodeLine :=
  if context.defaultDelay > 0 && command.takesDefaultDelay then
    family.actionLines (.wait context.defaultDelay)
  else
    []

/--
The lines of a command's block: its echo, its plan, the default delay that holds
after it, and an empty line.
-/
def block
    (family : Family)
    (context : Context)
    (position : Nat)
    (command : Command)
    (plan : Plan String) :
    List String :=
  (echo family context position command ++
      plan.lines family context.safeMode ++
      trailingDelay family (context.apply plan.change) command).map
    (fun line => line.nested.render family.indentation) ++
    [""]

/-- Encode the commands from a position on. -/
def encodeCommands
    (config : EncoderConfig)
    (device : Device) :
    Nat → Context → List Command →
      Run EncodeFault (List String × Context)
  | _, context, [] =>
      pure ([], context)
  | position, context, command :: rest => do
      Run.log .debug
        ("encoding command " ++ position.repr ++ " (" ++
          command.kind.keyword ++ ") from line " ++ command.line.repr)
      let plan ← Run.ofExcept
        (command.planFor device config.pause context.previous?)
      Run.write plan.notices
      let here := block device.family context position command plan
      (fun (lines, final) => (here ++ lines, final)) <$>
        encodeCommands config device (position + 1)
          ((context.apply plan.change).withPrevious command) rest

/-- The lines of the program for a script. -/
def encodeLines
    (config : EncoderConfig)
    (script : Script)
    (device : Device) :
    Run EncodeFault (List String) := do
  let (body, final) ←
    encodeCommands config device 1 (.initial config.safeMode) script.commands
  let lines :=
    device.family.header config.safeMode device.name script.summary
        config.startupDelay ++
      body ++
      device.family.footer final.safeMode
  Run.log .info
    ("encoded " ++ script.totalCommands.repr ++ " commands for " ++
      device.id ++ " (" ++ lines.length.repr ++ " lines)")
  pure lines

/-- The text of a program: its lines, each closed by a line feed. -/
def programText
    (lines : List String) :
    String :=
  "\n".intercalate lines ++ "\n"

/-- The program for a script. -/
def encode
    (config : EncoderConfig)
    (script : Script)
    (device : Device) :
    Run Failure String :=
  (programText <$> encodeLines config script device).mapFault
    fun fault : EncodeFault => .encode fault.message

end Encoder

end Keystroke
