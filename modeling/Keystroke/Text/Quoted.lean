import Keystroke.Text.Printable

namespace Keystroke.Text

/-!
# Texts in reports

A report shows a text between double quotes on one line.  Quotes, backslashes
and the common controls get a backslash, and every other character that cannot
be shown as it is becomes its code point in hexadecimal digits.
-/

/-- How a character is shown in a report. -/
def quoteCharacter
    (character : Char) :
    String :=
  match character with
  | '"' => "\\\""
  | '\\' => "\\\\"
  | '\t' => "\\t"
  | '\n' => "\\n"
  | '\r' => "\\r"
  | '\x00' => "\\0"
  | _ =>
      if isPrintable character then
        String.singleton character
      else
        "\\u\x7b" ++ String.ofList (Nat.toDigits 16 character.toNat) ++ "\x7d"

/-- A text as it is shown in a report. -/
def quote
    (text : String) :
    String :=
  "\"" ++ String.join (text.toList.map quoteCharacter) ++ "\""

end Keystroke.Text
