import Keystroke.Code.Line
import Keystroke.Code.Notes
import Keystroke.Plan.Action
import Keystroke.Text.Literal

namespace Keystroke.CircuitPython

/-!
# Programs in CircuitPython

The program is a function `main` that is called at the end of the file.  Times
are written in seconds, and nesting is by indentation alone.
-/

/-- The indentation of one level. -/
def indentation :
    String :=
  "    "

/-- A comment up to the end of the line. -/
def comment
    (text : String) :
    String :=
  "# " ++ text

/-- Wait for a time. -/
def wait
    (duration : Text.Milliseconds) :
    String :=
  "time.sleep(" ++ Text.seconds duration ++ ")"

/-- The lines of an action. -/
def actionLines :
    Action String → List CodeLine
  | .wait duration =>
      [.statement (wait duration)]
  | .waitBetween least most =>
      [.statement "import random",
        .statement
          ("time.sleep(random.uniform(" ++ Text.seconds least ++ ", " ++
            Text.seconds most ++ "))")]
  | .typeText text =>
      [.statement ("keyboard_layout.write(" ++ Text.literal text ++ ")")]
  | .press symbol =>
      [.statement ("keyboard.press(" ++ symbol ++ ")")]
  | .release symbol =>
      [.statement ("keyboard.release(" ++ symbol ++ ")")]
  | .print text =>
      [.statement ("print(" ++ Text.literal text ++ ")")]
  | .recordSafeMode enabled =>
      [.statement ("safe_mode = " ++ if enabled then "True" else "False")]
  | .idle =>
      [.statement "pass"]
  | .branchAlways condition =>
      [.statement "if True:",
        (CodeLine.statement
          ("pass  # Placeholder for condition: " ++ condition)).nested]
  | .loopOnce condition =>
      [.statement "while True:",
        (CodeLine.statement
          ("break  # Placeholder for condition: " ++ condition)).nested]

/-- The first line of a loop. -/
def loopStart
    (count : UInt64) :
    String :=
  "for _ in range(" ++ Text.wordNumeral count ++ "):"

/-- The lines before the first command. -/
def header
    (verbose : Bool)
    (deviceName : String)
    (summary : Script.Summary)
    (startupDelay : Text.Milliseconds) :
    List String :=
  ["\"\"\"", "Keyscript - Generated CircuitPython Code"] ++
    (if verbose then CodeNotes.opening deviceName "adafruit_hid" else []) ++
    ["\"\"\"",
      "",
      "import time",
      "import usb_hid",
      "from adafruit_hid.keyboard import Keyboard",
      "from adafruit_hid.keyboard_layout_us import KeyboardLayoutUS",
      "from adafruit_hid.keycode import Keycode",
      "",
      "# Initialize HID devices",
      "keyboard = Keyboard(usb_hid.devices)",
      "keyboard_layout = KeyboardLayoutUS(keyboard)",
      ""] ++
    (if verbose then
      ["# The computer sees this board as an ordinary USB keyboard and",
          "# receives its keystrokes like those of a physical one.",
          ""] ++
        CodeNotes.information comment summary ++
        ["", "# Main execution loop"]
    else
      []) ++
    ["def main():"] ++
    (if verbose then
      ["    # Wait for system to recognize the device"]
    else
      []) ++
    [indentation ++ wait startupDelay, ""]

/-- The lines after the last command. -/
def footer
    (verbose : Bool) :
    List String :=
  [""] ++
    (if verbose then ["# Run the main function"] else []) ++
    ["if __name__ == '__main__':",
      "    main()",
      "",
      "\"\"\"",
      "End of Keyscript Generated Code"] ++
    (if verbose then CodeNotes.closing else []) ++
    ["\"\"\""]

end Keystroke.CircuitPython
