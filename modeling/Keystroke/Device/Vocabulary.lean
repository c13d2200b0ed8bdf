import Keystroke.Command.Kind
import Keystroke.Device.Family
import Keystroke.Roster

namespace Keystroke

/-!
# Vocabularies of key symbols

A vocabulary gives the symbol that a program uses for a key.  Each family has a
standard vocabulary for all keys with a keyword; a device may have fewer or
other symbols.
-/

/-- Symbols by the kind of command they stand for. -/
abbrev Vocabulary :=
  Roster (Prod.fst : Kind × String → Kind)

namespace Vocabulary

/-- The symbol for a kind. -/
def symbol?
    (vocabulary : Vocabulary)
    (kind : Kind) :
    Option String :=
  (vocabulary.find? kind).map Prod.snd

/-- Add or replace the symbol for a kind. -/
def insert
    (vocabulary : Vocabulary)
    (kind : Kind)
    (symbol : String) :
    Vocabulary :=
  vocabulary.enter (kind, symbol)

/-- The symbols of the keyboard library for CircuitPython. -/
def circuitPythonSymbol :
    Key → String
  | .enter => "Keycode.ENTER"
  | .space => "Keycode.SPACE"
  | .tab => "Keycode.TAB"
  | .backspace => "Keycode.BACKSPACE"
  | .delete => "Keycode.DELETE"
  | .up => "Keycode.UP_ARROW"
  | .down => "Keycode.DOWN_ARROW"
  | .left => "Keycode.LEFT_ARROW"
  | .right => "Keycode.RIGHT_ARROW"
  | .home => "Keycode.HOME"
  | .lineEnd => "Keycode.END"
  | .insert => "Keycode.INSERT"
  | .pageUp => "Keycode.PAGE_UP"
  | .pageDown => "Keycode.PAGE_DOWN"
  | .escape => "Keycode.ESCAPE"
  | .function index => "Keycode.F" ++ (index.val + 1).repr
  | .modifier .control => "Keycode.CONTROL"
  | .modifier .shift => "Keycode.SHIFT"
  | .modifier .alt => "Keycode.ALT"
  | .modifier .gui => "Keycode.GUI"

/-- The symbols of the keyboard library for Arduino. -/
def arduinoSymbol :
    Key → String
  | .enter => "KEY_RETURN"
  | .space => "' '"
  | .tab => "KEY_TAB"
  | .backspace => "KEY_BACKSPACE"
  | .delete => "KEY_DELETE"
  | .up => "KEY_UP_ARROW"
  | .down => "KEY_DOWN_ARROW"
  | .left => "KEY_LEFT_ARROW"
  | .right => "KEY_RIGHT_ARROW"
  | .home => "KEY_HOME"
  | .lineEnd => "KEY_END"
  | .insert => "KEY_INSERT"
  | .pageUp => "KEY_PAGE_UP"
  | .pageDown => "KEY_PAGE_DOWN"
  | .escape => "KEY_ESC"
  | .function index => "KEY_F" ++ (index.val + 1).repr
  | .modifier .control => "KEY_LEFT_CTRL"
  | .modifier .shift => "KEY_LEFT_SHIFT"
  | .modifier .alt => "KEY_LEFT_ALT"
  | .modifier .gui => "KEY_LEFT_GUI"

/-- The standard symbol of a key in a family. -/
def standardSymbol :
    Family → Key → String
  | .circuitPython => circuitPythonSymbol
  | .arduino => arduinoSymbol

/-- The standard vocabulary of a family: a symbol for every key. -/
def standard
    (family : Family) :
    Vocabulary :=
  Roster.ofList
    (Key.all.map fun key => (Kind.key key, standardSymbol family key))

end Vocabulary

end Keystroke
