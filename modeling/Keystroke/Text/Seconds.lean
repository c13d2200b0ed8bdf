namespace Keystroke.Text

/-!
# Milliseconds as exact seconds

A duration is held in milliseconds and written in seconds as a decimal fraction
without rounding: the fraction has as few digits as it can have, and at least
one.
-/

/-- A duration in milliseconds. -/
abbrev Milliseconds :=
  UInt64

/-- The decimal numeral of a word. -/
def wordNumeral
    (value : UInt64) :
    String :=
  value.toNat.repr

/-- The three decimal digits of a number below one thousand. -/
def thousandths
    (value : Nat) :
    List Char :=
  [(value / 100).digitChar,
    (value / 10 % 10).digitChar,
    (value % 10).digitChar]

/-- Remove the zeros at the end of a list of digits. -/
def dropTrailingZeros
    (digits : List Char) :
    List Char :=
  (digits.reverse.dropWhile (· == '0')).reverse

/-- The digits after the decimal point for a number of thousandths. -/
def fractionDigits
    (value : Nat) :
    List Char :=
  if value = 0 then
    ['0']
  else
    dropTrailingZeros (thousandths value)

/-- Write milliseconds as seconds, exactly. -/
def seconds
    (duration : Milliseconds) :
    String :=
  (duration.toNat / 1000).repr ++ "." ++
    String.ofList (fractionDigits (duration.toNat % 1000))

end Keystroke.Text
