import Keystroke.Code.Line
import Keystroke.Code.Notes
import Keystroke.Plan.Action
import Keystroke.Text.Literal
import Keystroke.Text.Space

namespace Keystroke.Arduino

/-!
# Programs for Arduino

The program is a sketch whose work is done once in `setup`.  Times are written
in milliseconds, blocks stand between braces, and a backslash at the end of a
line would join the next line to it, so no comment may end in one.
-/

/-- The indentation of one level. -/
def indentation :
    String :=
  "  "

/-- Whether the last character that is not blank is a backslash. -/
def endsInBackslash
    (text : String) :
    Bool :=
  (Text.trimEnd text).toList.getLast? == some '\\'

/-- A comment up to the end of the line, which never ends in a backslash. -/
def comment
    (text : String) :
    String :=
  if endsInBackslash text then
    "// " ++ Text.trimEnd text ++ " //"
  else
    "// " ++ text

/-- Wait for a time. -/
def wait
    (duration : Text.Milliseconds) :
    String :=
  "delay(" ++ Text.wordNumeral duration ++ ");"

/-- The spelling of a truth value. -/
def truth
    (value : Bool) :
    String :=
  if value then "true" else "false"

/--
The lines of an action.  The upper bound of a random number is exclusive, so it
is written one larger.
-/
def actionLines :
    Action String → List CodeLine
  | .wait duration =>
      [.statement (wait duration)]
  | .waitBetween least most =>
      [.statement
        ("delay(random(" ++ Text.wordNumeral least ++ ", " ++
          Text.wordNumeral (most + 1) ++ "));")]
  | .typeText text =>
      [.statement ("Keyboard.print(" ++ Text.literal text ++ ");")]
  | .press symbol =>
      [.statement ("Keyboard.press(" ++ symbol ++ ");")]
  | .release symbol =>
      [.statement ("Keyboard.release(" ++ symbol ++ ");")]
  | .print text =>
      [.statement ("Serial.println(" ++ Text.literal text ++ ");")]
  | .recordSafeMode enabled =>
      [.statement ("safeMode = " ++ truth enabled ++ ";")]
  | .idle =>
      [.statement "(void)0;"]
  | .branchAlways condition =>
      [.statement "if (true) \x7b",
        (CodeLine.comment
          ("// Placeholder for condition: " ++ condition)).nested,
        .statement "\x7d"]
  | .loopOnce condition =>
      [.statement "while (true) \x7b",
        (CodeLine.statement
          ("break;  // Placeholder for condition: " ++ condition)).nested,
        .statement "\x7d"]

/-- The first line of a loop. -/
def loopStart
    (count : UInt64) :
    String :=
  "for (unsigned long i = 0; i < " ++ Text.wordNumeral count ++ "; i++) \x7b"

/-- The last line of a loop. -/
def loopEnd :
    String :=
  "\x7d"

/-- The lines before the first command. -/
def header
    (verbose : Bool)
    (deviceName : String)
    (summary : Script.Summary)
    (startupDelay : Text.Milliseconds) :
    List String :=
  ["/*", "Keyscript - Generated Arduino Code"] ++
    (if verbose then CodeNotes.opening deviceName "Arduino Keyboard" else []) ++
    ["*/",
      "",
      "#include <Keyboard.h>",
      "",
      "bool safeMode = " ++ truth verbose ++ ";",
      ""] ++
    (if verbose then CodeNotes.information comment summary ++ [""] else []) ++
    ["void setup() \x7b"] ++
    (if verbose then
      ["  // Initialize HID keyboard and serial output"]
    else
      []) ++
    ["  Keyboard.begin();", "  Serial.begin(9600);"] ++
    (if verbose then
      ["  // Wait for system to recognize the device"]
    else
      []) ++
    [indentation ++ wait startupDelay, ""]

/-- The lines after the last command. -/
def footer
    (verbose : Bool) :
    List String :=
  (if verbose then ["  // Make sure no key is left pressed"] else []) ++
    ["  Keyboard.releaseAll();", "\x7d", "", "void loop() \x7b"] ++
    (if verbose then ["  // The payload runs once from setup()"] else []) ++
    ["\x7d", "", "/*", "End of Keyscript Generated Code"] ++
    (if verbose then CodeNotes.closing else []) ++
    ["*/"]

end Keystroke.Arduino
