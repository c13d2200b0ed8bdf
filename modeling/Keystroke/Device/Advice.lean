import Keystroke.Device.Basic
import Keystroke.Script.Basic

namespace Keystroke.Device

/-!
# Advice about a script on a device

Keys without a symbol, commands that only leave placeholders and very long
texts are remarked on before a program is generated.
-/

/-- The longest text, in characters, that is not remarked on. -/
def longText :
    Nat :=
  1000

/-- Whether a device cannot fully do what a kind of command asks for. -/
def lacks
    (device : Device) :
    Kind → Bool
  | .key key => !device.vocabulary.contains (.key key)
  | .branch | .otherwise | .endBranch | .loop | .endLoop | .custom _ => true
  | _ => false

/-- The advice about a kind of command that the device lacks. -/
def supportAdvice
    (device : Device)
    (command : Command) :
    List String :=
  if device.lacks command.kind then
    ["Line " ++ command.line.repr ++ ": Command '" ++ command.kind.keyword ++
      "' may not be fully supported on " ++ device.name]
  else
    []

/-- The advice about a text that is very long. -/
def lengthAdvice
    (command : Command) :
    List String :=
  match command.kind, command.firstParameter? with
  | .text, some text =>
      if text.length > longText then
        ["Line " ++ command.line.repr ++ ": Very long string (" ++
          text.length.repr ++ " chars) may cause timing issues"]
      else
        []
  | _, _ =>
      []

/-- The advice about a script on a device. -/
def advice
    (device : Device)
    (script : Script) :
    List String :=
  script.commands.flatMap fun command =>
    device.supportAdvice command ++ lengthAdvice command

end Keystroke.Device
