import Keystroke.Compilation

namespace Keystroke.CommandLine

/-!
# What the command line prints

The parts of a report are lists of lines.
-/

/-- A text followed by spaces up to a width. -/
def padEnd
    (width : Nat)
    (text : String) :
    String :=
  text ++ String.ofList (List.replicate (width - text.length) ' ')

/-- A text after spaces up to a width. -/
def padStart
    (width : Nat)
    (text : String) :
    String :=
  String.ofList (List.replicate (width - text.length) ' ') ++ text

/-- An indented line of a report. -/
def item
    (text : String) :
    String :=
  "   " ++ text

/-- The line for one device. -/
def deviceLine
    (device : Device) :
    String :=
  padEnd 20 device.id ++ " " ++ padEnd 20 device.name ++ " " ++
    device.family.name ++ " (." ++ device.extension ++ ")"

/-- The commands of a script, numbered. -/
def commandLines
    (script : Script) :
    List String :=
  (script.commands.zipIdx 1).map fun (command, position) =>
    item
      (padStart 2 position.repr ++ ". " ++ command.kind.keyword ++ ": " ++
        command.rawText)

/-- What is said first of a script that was read. -/
def parseReport
    (file : String)
    (script : Script) :
    List String :=
  ["Successfully parsed '" ++ file ++ "'",
    item ("Total Commands: " ++ script.totalCommands.repr),
    item ("Total Lines: " ++ script.totalLines.repr),
    item ("Source: " ++ script.source)]

/-- What is said first of a program that was written. -/
def encodeReport
    (file : String)
    (output : String)
    (device : Device)
    (script : Script)
    (code : String) :
    List String :=
  ["Successfully encoded '" ++ file ++ "' for " ++ device.name ++ " to '" ++
      output ++ "'",
    item ("Input Commands: " ++ script.totalCommands.repr),
    item ("Output Lines: " ++ (Text.lineCount code).repr)]

/-- How often each keyword occurs, in the order of the keywords. -/
def keywordCounts
    (script : Script) :
    List (String × Nat) :=
  let keywords := script.commands.map fun command => command.kind.keyword
  (keywords.eraseDups.mergeSort fun first second =>
    !decide (second < first)).map fun keyword =>
      (keyword, keywords.count keyword)

/-- The number of commands of each kind. -/
def summaryLines
    (script : Script) :
    List String :=
  (keywordCounts script).map fun (keyword, count) =>
    item (keyword ++ ": " ++ count.repr)

/-- What is said first of a script that was examined for a device. -/
def validateReport
    (file : String)
    (script : Script)
    (scriptWarnings : List String)
    (deviceWarnings : List String) :
    List String :=
  ["Successfully validated '" ++ file ++ "'",
    item ("Total Commands: " ++ script.totalCommands.repr),
    item ("Parser Warnings: " ++ scriptWarnings.length.repr),
    item ("Device Warnings: " ++ deviceWarnings.length.repr)]

end Keystroke.CommandLine
