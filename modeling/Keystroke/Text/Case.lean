namespace Keystroke.Text

/-!
# Letters in upper case

Keywords may be written in any case of ASCII letters.  They are compared in
upper case, and every character that is not an ASCII letter stays as it is.
-/

/-- A text with its ASCII letters in upper case. -/
def upper
    (text : String) :
    String :=
  String.ofList (text.toList.map Char.toUpper)

/-- Upper case is taken character by character. -/
@[simp] theorem toList_upper
    (text : String) :
    (upper text).toList = text.toList.map Char.toUpper := by
  simp [upper]

end Keystroke.Text
