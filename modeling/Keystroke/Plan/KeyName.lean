import Keystroke.Device.Basic
import Keystroke.Text.Case

namespace Keystroke

/-!
# Names of keys and their symbols

A combination is written with tokens.  A token names a modifier, or is another
name of a key, or is spelled out as the family's convention has it.  The first
two are looked up in the vocabulary of the device; a spelled key always has a
symbol.
-/

/-- What a token of a combination stands for. -/
inductive Token where
  | modifier (held : Modifier)
  | named (key : Key)
  | spelled (token : String)
  deriving Repr, DecidableEq

namespace Token

/-- Tell what a token stands for. -/
def classify
    (token : String) :
    Token :=
  match Modifier.ofKeyword? token with
  | some held =>
      .modifier held
  | none =>
      match Key.ofAlias? token with
      | some key =>
          .named key
      | none =>
          .spelled token

end Token

/-- A key of a plan: one with a keyword, or one spelled out. -/
inductive KeyName where
  | known (key : Key)
  | spelled (token : String)
  deriving Repr, DecidableEq

namespace KeyName

/-- The key that a token of a combination names. -/
def ofToken
    (token : String) :
    KeyName :=
  match Token.classify token with
  | .modifier held => .known (.modifier held)
  | .named key => .known key
  | .spelled spelling => .spelled spelling

end KeyName

namespace Family

/-- The name of a digit key in CircuitPython. -/
def digitName? :
    List Char → Option String
  | ['0'] => some "ZERO"
  | ['1'] => some "ONE"
  | ['2'] => some "TWO"
  | ['3'] => some "THREE"
  | ['4'] => some "FOUR"
  | ['5'] => some "FIVE"
  | ['6'] => some "SIX"
  | ['7'] => some "SEVEN"
  | ['8'] => some "EIGHT"
  | ['9'] => some "NINE"
  | _ => none

/--
The symbol of a key that is spelled out.  CircuitPython names digits by words;
Arduino writes a single letter or digit as a character in lower case.
-/
def spell :
    Family → String → String
  | .circuitPython, token =>
      "Keycode." ++ (digitName? token.toList).getD (Text.upper token)
  | .arduino, token =>
      match token.toList with
      | [character] =>
          if character.isAlphanum then
            "'" ++ String.singleton character.toLower ++ "'"
          else
            "KEY_" ++ Text.upper token
      | _ =>
          "KEY_" ++ Text.upper token

end Family

end Keystroke
