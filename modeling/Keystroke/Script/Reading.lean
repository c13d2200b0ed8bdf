import Keystroke.Failure
import Keystroke.Grammar
import Keystroke.Log
import Keystroke.Script.Basic

namespace Keystroke.Script

/-!
# Reading a script

A text is read line by line.  Blank lines are skipped but counted, every other
line is trimmed and has to match a rule of the grammar, and the first line that
matches none ends the reading.
-/

/-- Read one trimmed line that is not empty. -/
def readLine
    (source : String)
    (number : Nat)
    (text : String) :
    Run Failure Command :=
  match Grammar.matchLine? text with
  | none =>
      Run.fail (.script source number ("Unknown command: " ++ text))
  | some (rule, reading) => do
      Run.log .trace
        ("line " ++ number.repr ++ " matched rule '" ++ rule.name ++ "'")
      pure
        { kind := reading.kind
          line := number
          rawText := text
          parameters := reading.parameters }

/-- Read lines of which the first has the given number. -/
def readLines
    (source : String) :
    Nat → List String → Run Failure (List Command)
  | _, [] =>
      pure []
  | number, line :: rest =>
      let text := Text.trim line
      if text.isEmpty then
        readLines source (number + 1) rest
      else do
        let command ← readLine source number text
        (command :: ·) <$> readLines source (number + 1) rest

/-- Read a text as a script. -/
def read
    (text : String)
    (source : String) :
    Run Failure Script := do
  let lines := Text.lines text
  let commands ← readLines source 1 lines
  Run.log .debug
    ("parsed " ++ commands.length.repr ++ " commands from " ++
      lines.length.repr ++ " lines of " ++ source)
  pure { commands, source, totalLines := lines.length }

end Keystroke.Script
