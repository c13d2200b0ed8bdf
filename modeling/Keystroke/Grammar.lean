import Keystroke.Command.Kind
import Keystroke.Text.Case
import Keystroke.Text.Space

namespace Keystroke.Grammar

/-!
# The forms of a line

A line of a script has one of eight forms, and each form has a rule that either
refuses a line or reads a kind and parameters from it.  The rules are tried in
a fixed order and the first that accepts the line decides.  Keywords may be
written in any case; parameters keep the case they are written in.
-/

/-- What a rule reads from a line. -/
structure Reading where
  kind : Kind
  parameters : List String
  deriving Repr, DecidableEq

/-- Whether two lists of characters are equal in any case of ASCII letters. -/
def sameLetters
    (first second : List Char) :
    Bool :=
  first.map Char.toUpper == second.map Char.toUpper

/--
What follows a keyword at the start of a line, without the blank characters
between them.  A keyword ends at the end of the line or at a blank character.
-/
def afterKeyword?
    (keyword : String)
    (line : String) :
    Option String :=
  let length := keyword.toList.length
  if sameLetters (line.toList.take length) keyword.toList then
    match line.toList.drop length with
    | [] =>
        some ""
    | character :: rest =>
        if Text.isSpace character then
          some (String.ofList (rest.dropWhile Text.isSpace))
        else
          none
  else
    none

/-- What follows a keyword, if anything does. -/
def argument?
    (keyword : String)
    (line : String) :
    Option String :=
  (afterKeyword? keyword line).filter fun rest => !rest.isEmpty

/-- Whether a word may stand in a combination: only ASCII letters and digits. -/
def isToken
    (word : String) :
    Bool :=
  !word.isEmpty && word.toList.all Char.isAlphanum

/-- A modifier followed by at least one token. -/
def combination?
    (line : String) :
    Option Reading :=
  match Text.words line with
  | first :: second :: others =>
      if (Modifier.ofKeyword? first).isSome &&
          (second :: others).all isToken then
        some ⟨.combination, first :: second :: others⟩
      else
        none
  | _ =>
      none

/-- A delay with its value, which is not examined here. -/
def delay?
    (line : String) :
    Option Reading :=
  (argument? Kind.delay.keyword line).map fun value => ⟨.delay, [value]⟩

/-- A text to type, which may be empty. -/
def text?
    (line : String) :
    Option Reading :=
  (afterKeyword? Kind.text.keyword line).map fun text => ⟨.text, [text]⟩

/-- A line that is the name of a key or the pause. -/
def key?
    (line : String) :
    Option Reading :=
  (Kind.ofSingleWord? line).map fun kind => ⟨kind, []⟩

/-- Safe mode switched on or off. -/
def safeMode?
    (line : String) :
    Option Reading :=
  match argument? Kind.safeMode.keyword line with
  | none =>
      none
  | some value =>
      if Text.upper value = "ON" ∨ Text.upper value = "OFF" then
        some ⟨.safeMode, [value]⟩
      else
        none

/-- The words that an attack mode may be set to. -/
def isAttackMode :
    List String → Bool
  | [word] =>
      word == "HID" || word == "STORAGE" || word == "ON" || word == "OFF"
  | [first, second] =>
      first == "HID" && second == "STORAGE"
  | _ =>
      false

/-- An attack mode, whose words are kept as they are written. -/
def attackMode?
    (line : String) :
    Option Reading :=
  match argument? Kind.attackMode.keyword line with
  | none =>
      none
  | some mode =>
      if isAttackMode ((Text.words mode).map Text.upper) then
        some ⟨.attackMode, [mode]⟩
      else
        none

/-- A comment: everything after the number sign. -/
def comment?
    (line : String) :
    Option Reading :=
  match line.toList with
  | '#' :: text =>
      some ⟨.comment, [String.ofList text]⟩
  | _ =>
      none

/-- A remark, which may be empty. -/
def remark?
    (line : String) :
    Option Reading :=
  (afterKeyword? Kind.remark.keyword line).map fun text => ⟨.remark, [text]⟩

/-- The eight forms of a line. -/
inductive Rule where
  | combination
  | delay
  | text
  | key
  | safeMode
  | attackMode
  | comment
  | remark
  deriving Repr, DecidableEq

namespace Rule

/-- The rules in the order in which they are tried. -/
def all :
    List Rule :=
  [.combination, .delay, .text, .key, .safeMode, .attackMode, .comment,
    .remark]

/-- The name of the rule in the log. -/
def name :
    Rule → String
  | .combination => "modifier-combo"
  | .delay => "delay"
  | .text => "string"
  | .key => "key"
  | .safeMode => "safe-mode"
  | .attackMode => "attackmode"
  | .comment => "comment"
  | .remark => "rem"

/-- What the rule reads from a line it accepts. -/
def read? :
    Rule → String → Option Reading
  | .combination => combination?
  | .delay => delay?
  | .text => text?
  | .key => key?
  | .safeMode => safeMode?
  | .attackMode => attackMode?
  | .comment => comment?
  | .remark => remark?

end Rule

/-- The first rule that accepts a line, with what it reads. -/
def matchLine?
    (line : String) :
    Option (Rule × Reading) :=
  Rule.all.findSome? fun rule =>
    (rule.read? line).map fun reading => (rule, reading)

end Keystroke.Grammar
