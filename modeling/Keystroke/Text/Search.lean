namespace Keystroke.Text

/-!
# Finding one text in another
-/

/-- Whether a pattern occurs somewhere in a list of characters. -/
def occursIn
    (pattern : List Char) :
    List Char → Bool
  | [] =>
      pattern.isEmpty
  | character :: rest =>
      pattern.isPrefixOf (character :: rest) || occursIn pattern rest

/-- Whether a pattern occurs somewhere in a text. -/
def contains
    (text : String)
    (pattern : String) :
    Bool :=
  occursIn pattern.toList text.toList

end Keystroke.Text
