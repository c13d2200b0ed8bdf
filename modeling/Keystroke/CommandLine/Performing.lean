import Keystroke.CommandLine.FileAccess
import Keystroke.CommandLine.Report
import Keystroke.CommandLine.Request
import Keystroke.Failure.Report

namespace Keystroke.CommandLine

/-!
# Carrying out a request

The device is looked up first, then the file is read, then the script is read
from it, then it is encoded, and then the program is written.  Each of these can
fail, and ends the run.  What is printed on the way stays printed, so a run that
fails prints nothing only because nothing is printed before the last of them.
-/

variable
  {Effect : Type → Type}
  [Monad Effect]

/--
Actions that may fail and that print on their way.  The state is what has been
printed to the standard output.
-/
abbrev Console
    (Effect : Type → Type) :=
  ExceptT Failure (StateT String Effect)

/-- Print a line. -/
def printLine
    (line : String) :
    Console Effect Unit :=
  modify fun printed => printed ++ line ++ "\n"

/-- Print lines in order. -/
def printLines
    (lines : List String) :
    Console Effect Unit :=
  lines.forM printLine

/-- Print warnings under a heading, which is left out if there are none. -/
def printWarnings
    (warnings : List String) :
    Console Effect Unit := do
  if warnings.isEmpty then
    pure ()
  else
    printLine "\nWarnings:"
    printLines (warnings.map item)

/-- Take over a result. -/
def takeOver
    {Value : Type}
    (result : Except Failure Value) :
    Console Effect Value :=
  ExceptT.mk (pure result)

/-- Read the script in a file. -/
def readScript
    (access : FileAccess Effect)
    (file : String) :
    Console Effect Script := do
  match ← access.read file with
  | .error fault =>
      throw (.read file fault)
  | .ok content =>
      match String.fromUTF8? content with
      | none =>
          throw (.read file .notText)
      | some text =>
          takeOver (Script.read text file).outcome

/-- Where a program goes if no path is given for it. -/
def defaultOutput
    (file : String)
    (device : Device) :
    String :=
  "compiled/" ++ device.fileName ((Path.stem? file).getD "output")

/-- Write the program for a script. -/
def writeProgram
    (access : FileAccess Effect)
    (output : String)
    (code : String) :
    Console Effect Unit := do
  match ← access.write output code with
  | .error fault =>
      throw (.write output fault)
  | .ok () =>
      pure ()

/-- Read a script and report on it. -/
def performParse
    (access : FileAccess Effect)
    (verbose : Bool)
    (file : String) :
    Console Effect Unit := do
  let script ← readScript access file
  printLines (parseReport file script)
  if verbose then
    printLine "\nCommands:"
    printLines (commandLines script)
  printWarnings script.advice

/-- Write the program for a script and report on it. -/
def performEncode
    (access : FileAccess Effect)
    (file : String)
    (output? : Option String)
    (deviceId : String)
    (production : Bool) :
    Console Effect Unit := do
  let device ← takeOver (Registry.builtin.resolve deviceId)
  let script ← readScript access file
  let output := output?.getD (defaultOutput file device)
  let config := EncoderConfig.withSafeMode {} !production
  let code ← takeOver (Encoder.encode config script device).outcome
  writeProgram access output code
  printLines (encodeReport file output device script code)
  let warnings := script.advice ++ device.advice script
  printWarnings warnings

/-- Examine a script for a device and report on it. -/
def performValidate
    (access : FileAccess Effect)
    (verbose : Bool)
    (file : String)
    (deviceId : String) :
    Console Effect Unit := do
  let device ← takeOver (Registry.builtin.resolve deviceId)
  let script ← readScript access file
  let scriptWarnings := script.advice
  let deviceWarnings := device.advice script
  printLines (validateReport file script scriptWarnings deviceWarnings)
  let warnings := scriptWarnings ++ deviceWarnings
  if warnings.isEmpty then
    printLine "\nNo warnings found"
  else
    printWarnings warnings
  if verbose then
    printLine "\nCommand Summary:"
    printLines (summaryLines script)

/-- Carry out a request and report on it. -/
def Invocation.perform
    (invocation : Invocation)
    (access : FileAccess Effect) :
    Console Effect Unit :=
  match invocation.request with
  | .parse file =>
      performParse access invocation.verbose file
  | .encode file output? deviceId production =>
      performEncode access file output? deviceId production
  | .validate file deviceId =>
      performValidate access invocation.verbose file deviceId
  | .devices =>
      printLines (Registry.builtin.items.map deviceLine)

/-- How a run of the command line ends, and what it has printed. -/
inductive Outcome where
  | rejected
  | answered (text : String)
  | failed (failure : Failure) (printed : String)
  | finished (printed : String)
  deriving Repr, DecidableEq

namespace Outcome

/-- The status that the process ends with. -/
def exitCode :
    Outcome → Nat
  | .rejected => 2
  | .answered _ => 0
  | .failed _ _ => 1
  | .finished _ => 0

/-- What is printed to the standard output. -/
def output :
    Outcome → String
  | .rejected => ""
  | .answered text => text
  | .failed _ printed => printed
  | .finished printed => printed

/-- The failure that a run ends with. -/
def failure? :
    Outcome → Option Failure
  | .failed failure _ => some failure
  | _ => none

/-- What is printed to the standard error. -/
def complaint
    (outcome : Outcome) :
    String :=
  match outcome.failure? with
  | some failure => "Error: " ++ failure.report ++ "\n"
  | none => ""

end Outcome

/-- Run the command line on arguments that are read in some way. -/
def runWith
    (reader : ArgumentReader)
    (access : FileAccess Effect)
    (arguments : List String) :
    Effect Outcome := do
  match reader arguments with
  | .error .rejected =>
      pure .rejected
  | .error (.answered text) =>
      pure (.answered text)
  | .ok invocation =>
      let (result, printed) ← (invocation.perform access).run.run ""
      match result with
      | .error failure =>
          pure (.failed failure printed)
      | .ok () =>
          pure (.finished printed)

end Keystroke.CommandLine
