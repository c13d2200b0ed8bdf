import Keystroke.Command.Key
import Keystroke.Text.Case

namespace Keystroke

/-!
# Kinds of command

Every line of a script is a command of one kind, and every kind has a keyword.
Some kinds are never produced by reading a script; they are there for tools
that build commands themselves, and so is the kind for words of their own.
-/

/-- What a command asks for. -/
inductive Kind where
  | key (pressed : Key)
  | delay
  | text
  | combination
  | pause
  | safeMode
  | attackMode
  | comment
  | remark
  | replay
  | defaultDelay
  | randomDelay
  | log
  | validate
  | branch
  | otherwise
  | endBranch
  | loop
  | endLoop
  | custom (name : String)
  deriving Repr, DecidableEq

namespace Kind

/-- The word that stands for the kind in scripts and messages. -/
def keyword :
    Kind → String
  | .key pressed => pressed.keyword
  | .delay => "DELAY"
  | .text => "STRING"
  | .combination => "MODIFIER_COMBO"
  | .pause => "PAUSE"
  | .safeMode => "SAFE_MODE"
  | .attackMode => "ATTACKMODE"
  | .comment => "COMMENT"
  | .remark => "REM"
  | .replay => "REPEAT"
  | .defaultDelay => "DEFAULT_DELAY"
  | .randomDelay => "RANDOM_DELAY"
  | .log => "LOG"
  | .validate => "VALIDATE"
  | .branch => "IF"
  | .otherwise => "ELSE"
  | .endBranch => "ENDIF"
  | .loop => "WHILE"
  | .endLoop => "ENDWHILE"
  | .custom name => name

/-- Every kind that is not custom. -/
def named :
    List Kind :=
  [.delay, .text] ++ Key.all.map .key ++
    [.combination, .pause, .safeMode, .attackMode, .comment, .remark, .replay,
      .defaultDelay, .randomDelay, .log, .validate, .branch, .otherwise,
      .endBranch, .loop, .endLoop]

/-- The kind whose keyword is exactly the given word. -/
def ofKeyword?
    (word : String) :
    Option Kind :=
  named.find? fun kind => kind.keyword = word

/-- The kind of a line that is one word only: a key or the pause. -/
def ofSingleWord?
    (word : String) :
    Option Kind :=
  match Key.ofKeyword? word with
  | some pressed =>
      some (.key pressed)
  | none =>
      if Text.upper word = Kind.pause.keyword then
        some .pause
      else
        none

/-- Whether the kind presses and releases a key of its own. -/
def isKey :
    Kind → Bool
  | .key _ => true
  | _ => false

/-- Whether the kind only carries a comment. -/
def isComment :
    Kind → Bool
  | .comment | .remark => true
  | _ => false

end Kind

end Keystroke
