namespace Keystroke.Text

/-!
# String literals

Both families of generated programs write text between double quotes and put a
backslash before every backslash and every double quote of the text.
-/

/-- How one character of a text is written inside a literal. -/
def escapeCharacter
    (character : Char) :
    List Char :=
  if character = '\\' ∨ character = '"' then
    ['\\', character]
  else
    [character]

/-- The characters of a text as they are written inside a literal. -/
def escape
    (text : String) :
    String :=
  String.ofList (text.toList.flatMap escapeCharacter)

/-- A text as a literal with its quotes. -/
def literal
    (text : String) :
    String :=
  "\"" ++ escape text ++ "\""

/--
Read a literal after its opening quote.  A backslash takes the next character
as it is, and the first other double quote closes the literal.  The result is
the text of the literal and what follows its closing quote.
-/
def scanLiteral? :
    List Char → Option (List Char × List Char)
  | [] =>
      none
  | ['\\'] =>
      none
  | '\\' :: character :: rest =>
      (scanLiteral? rest).map fun (text, after) => (character :: text, after)
  | character :: rest =>
      if character = '"' then
        some ([], rest)
      else
        (scanLiteral? rest).map fun (text, after) => (character :: text, after)

end Keystroke.Text
