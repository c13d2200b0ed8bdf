import Keystroke.Text.Case

namespace Keystroke

/-!
# Keys of the keyboard

The keys a script can name by a keyword of their own.  Modifiers are keys too:
alone on a line they are pressed and released, and at the start of a line with
further tokens they begin a combination.
-/

/-- The keys that are held while another key is pressed. -/
inductive Modifier where
  | control
  | shift
  | alt
  | gui
  deriving Repr, DecidableEq

namespace Modifier

/-- Every modifier. -/
def all :
    List Modifier :=
  [.control, .shift, .alt, .gui]

/-- The word that names the modifier in a script. -/
def keyword :
    Modifier → String
  | .control => "CTRL"
  | .shift => "SHIFT"
  | .alt => "ALT"
  | .gui => "MOD"

/-- The modifier that a word names in any case. -/
def ofKeyword?
    (word : String) :
    Option Modifier :=
  let name := Text.upper word
  all.find? fun modifier => modifier.keyword = name

end Modifier

/-- The keys with a keyword; the function keys are counted from zero. -/
inductive Key where
  | enter
  | space
  | tab
  | backspace
  | delete
  | up
  | down
  | left
  | right
  | home
  | lineEnd
  | insert
  | pageUp
  | pageDown
  | escape
  | function (index : Fin 12)
  | modifier (held : Modifier)
  deriving Repr, DecidableEq

namespace Key

/-- Every key with a keyword. -/
def all :
    List Key :=
  [.enter, .space, .tab, .backspace, .delete, .up, .down, .left, .right,
      .home, .lineEnd, .insert, .pageUp, .pageDown, .escape] ++
    (List.finRange 12).map .function ++
    Modifier.all.map .modifier

/-- The word that names the key in a script. -/
def keyword :
    Key → String
  | .enter => "ENTER"
  | .space => "SPACE"
  | .tab => "TAB"
  | .backspace => "BACKSPACE"
  | .delete => "DELETE"
  | .up => "UP"
  | .down => "DOWN"
  | .left => "LEFT"
  | .right => "RIGHT"
  | .home => "HOME"
  | .lineEnd => "END"
  | .insert => "INSERT"
  | .pageUp => "PAGE_UP"
  | .pageDown => "PAGE_DOWN"
  | .escape => "ESCAPE"
  | .function index => "F" ++ (index.val + 1).repr
  | .modifier held => held.keyword

/-- The key that a word names in any case. -/
def ofKeyword?
    (word : String) :
    Option Key :=
  let name := Text.upper word
  all.find? fun key => key.keyword = name

/-- The shorter and full names that a combination accepts for some keys. -/
def ofAlias?
    (word : String) :
    Option Key :=
  match Text.upper word with
  | "DEL" | "DELETE" => some .delete
  | "BACKSPACE" => some .backspace
  | "ENTER" => some .enter
  | "SPACE" => some .space
  | "TAB" => some .tab
  | "ESC" | "ESCAPE" => some .escape
  | _ => none

end Key

end Keystroke
