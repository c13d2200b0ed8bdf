import Keystroke.Command.Basic

namespace Keystroke

/-!
# Why a command cannot be encoded

A fault has a cause and the text of the command at fault; its message always
ends in that text.
-/

/-- The durations that a command can give. -/
inductive DurationRole where
  | delay
  | defaultDelay
  | randomDelay
  deriving Repr, DecidableEq

namespace DurationRole

/-- The duration's name at the start of a message. -/
def label :
    DurationRole → String
  | .delay => "Delay"
  | .defaultDelay => "Default delay"
  | .randomDelay => "Random delay"

/-- The duration's name within a message. -/
def innerLabel :
    DurationRole → String
  | .delay => "delay"
  | .defaultDelay => "default delay"
  | .randomDelay => "random delay"

end DurationRole

/-- The reasons for which a command is refused. -/
inductive Cause where
  | missingParameter (kind : Kind) (what : String)
  | invalidDuration (role : DurationRole) (value : String)
  | negativeDuration (role : DurationRole)
  | neitherOnNorOff
  | emptyRange
  | invalidCount (value : String)
  | countBelowOne
  | nothingToRepeat
  | repeatOfRepeat
  | unsupportedKey (kind : Kind) (deviceId : String)
  deriving Repr, DecidableEq

namespace Cause

/-- The cause in words, up to the text of the command. -/
def message :
    Cause → String
  | .missingParameter kind what =>
      kind.keyword ++ " command missing " ++ what
  | .invalidDuration role value =>
      "Invalid " ++ role.innerLabel ++ " value '" ++ value ++ "' in command"
  | .negativeDuration role =>
      role.label ++ " value must be non-negative in command"
  | .neitherOnNorOff =>
      "SAFE_MODE must be ON or OFF in command"
  | .emptyRange =>
      "Invalid random delay range in command"
  | .invalidCount value =>
      "Invalid repeat count '" ++ value ++ "' in command"
  | .countBelowOne =>
      "Repeat count must be at least 1 in command"
  | .nothingToRepeat =>
      "No previous command to repeat in command"
  | .repeatOfRepeat =>
      "Cannot repeat a REPEAT command in command"
  | .unsupportedKey kind deviceId =>
      "Unsupported key: " ++ kind.keyword ++ " for device " ++ deviceId ++
        " in command"

end Cause

/-- A refused command. -/
structure EncodeFault where
  cause : Cause
  rawText : String
  deriving Repr, DecidableEq

namespace EncodeFault

/-- The fault in words. -/
def message
    (fault : EncodeFault) :
    String :=
  fault.cause.message ++ ": " ++ fault.rawText

end EncodeFault

namespace Command

/-- The fault of this command for a cause. -/
def fault
    (command : Command)
    (cause : Cause) :
    EncodeFault where
  cause := cause
  rawText := command.rawText

end Command

end Keystroke
