namespace Keystroke.Text

/-!
# Blank characters, pieces and words

A text is cut at separators into pieces, and its words are the non-empty pieces
between blank characters.  Blank means the Unicode property `White_Space`, so
the no-break space is blank and the zero-width space is not.
-/

/-- The characters with the Unicode property `White_Space`. -/
def isSpace
    (character : Char) :
    Bool :=
  let code := character.toNat
  (9 ≤ code && code ≤ 13) ||
    code == 0x20 ||
    code == 0x85 ||
    code == 0xA0 ||
    code == 0x1680 ||
    (0x2000 ≤ code && code ≤ 0x200A) ||
    code == 0x2028 ||
    code == 0x2029 ||
    code == 0x202F ||
    code == 0x205F ||
    code == 0x3000

/-- Remove the leading blank characters. -/
def trimStart
    (text : String) :
    String :=
  String.ofList (text.toList.dropWhile isSpace)

/-- Remove the trailing blank characters. -/
def trimEnd
    (text : String) :
    String :=
  String.ofList (text.toList.reverse.dropWhile isSpace).reverse

/-- Remove the blank characters on both sides. -/
def trim
    (text : String) :
    String :=
  trimEnd (trimStart text)

/-- Put a character before pieces: a separator starts a new piece. -/
def prependTo
    (isSeparator : Char → Bool)
    (character : Char) :
    List (List Char) → List (List Char)
  | [] =>
      [[character]]
  | piece :: others =>
      if isSeparator character then
        [] :: piece :: others
      else
        (character :: piece) :: others

/--
Cut a list of characters at every separator.  There is always one more piece
than there are separators, so the pieces may be empty.
-/
def pieces
    (isSeparator : Char → Bool)
    (characters : List Char) :
    List (List Char) :=
  characters.foldr (prependTo isSeparator) [[]]

/-- A text always has a first piece. -/
theorem pieces_ne_nil
    (isSeparator : Char → Bool)
    (characters : List Char) :
    pieces isSeparator characters ≠ [] := by
  cases characters with
  | nil =>
      simp [pieces]
  | cons character rest =>
      simp only [pieces, List.foldr_cons]
      cases List.foldr (prependTo isSeparator) [[]] rest with
      | nil =>
          simp [prependTo]
      | cons piece others =>
          simp only [prependTo]
          split <;> simp

/-- The lines of a text: its pieces between line feeds. -/
def lines
    (text : String) :
    List String :=
  (pieces (· == '\n') text.toList).map String.ofList

/-- The maximal runs of characters that are not blank. -/
def words
    (text : String) :
    List String :=
  ((pieces isSpace text.toList).filter fun piece => !piece.isEmpty).map
    String.ofList

/--
The number of lines of a text whose last line may or may not be closed by a
line feed: an empty last piece is not counted.
-/
def lineCount
    (text : String) :
    Nat :=
  let cut := lines text
  if cut.getLast? == some "" then
    cut.length - 1
  else
    cut.length

end Keystroke.Text
