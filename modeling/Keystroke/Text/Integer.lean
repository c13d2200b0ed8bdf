namespace Keystroke.Text

/-!
# Decimal integers of 64 bits

The accepted numerals are an optional sign followed by one or more decimal
digits and nothing else.  A numeral whose value does not fit a signed word of
64 bits is refused.
-/

/-- The value of a non-empty list of decimal digits. -/
def natural?
    (digits : List Char) :
    Option Nat :=
  if !digits.isEmpty && digits.all Char.isDigit then
    some (Nat.ofDigitChars 10 digits 0)
  else
    none

/-- The value of a numeral with an optional sign, of any size. -/
def numeral? :
    List Char → Option Int
  | '+' :: digits =>
      (natural? digits).map Int.ofNat
  | '-' :: digits =>
      (natural? digits).map fun value => -Int.ofNat value
  | digits =>
      (natural? digits).map Int.ofNat

/-- Two to the power of 63, the first integer beyond a signed word. -/
def wordBound :
    Int :=
  0x8000000000000000

/-- The integers a signed word of 64 bits can hold. -/
def fitsWord
    (value : Int) :
    Bool :=
  -wordBound ≤ value && value < wordBound

/-- Read a signed integer of 64 bits. -/
def integer?
    (text : String) :
    Option Int :=
  (numeral? text.toList).filter fitsWord

end Keystroke.Text
