import Keystroke.Text.Integer

namespace Keystroke.Text

/-!
# Numerals and the integers they stand for

A numeral is an optional sign followed by decimal digits.  `Numeral` states
this without the code that reads one, and reading an integer of 64 bits
succeeds exactly on the numerals whose integer fits.
-/

/-- The characters of a numeral, and the integer it stands for. -/
inductive Numeral : List Char → Int → Prop where
  | unsigned
      {digits : List Char} :
      digits ≠ [] →
      (∀ digit ∈ digits, digit.isDigit) →
      Numeral digits (Nat.ofDigitChars 10 digits 0)
  | positive
      {digits : List Char} :
      digits ≠ [] →
      (∀ digit ∈ digits, digit.isDigit) →
      Numeral ('+' :: digits) (Nat.ofDigitChars 10 digits 0)
  | negative
      {digits : List Char} :
      digits ≠ [] →
      (∀ digit ∈ digits, digit.isDigit) →
      Numeral ('-' :: digits) (-Nat.ofDigitChars 10 digits 0)

/-- What holds of the signs and of all digits holds of a numeral. -/
theorem Numeral.forall_mem
    {property : Char → Prop}
    (plus : property '+')
    (minus : property '-')
    (digits : ∀ {digit : Char}, digit.isDigit → property digit)
    {characters : List Char}
    {value : Int}
    (numeral : Numeral characters value) :
    ∀ character ∈ characters, property character := by
  cases numeral with
  | unsigned _ areDigits =>
      intro character member
      exact digits (areDigits character member)
  | positive _ areDigits =>
      exact List.forall_mem_cons.mpr
        ⟨plus, fun character member => digits (areDigits character member)⟩
  | negative _ areDigits =>
      exact List.forall_mem_cons.mpr
        ⟨minus, fun character member => digits (areDigits character member)⟩

/-- Digits are read as a natural number if there are any. -/
theorem natural?_eq_some
    {digits : List Char}
    {value : Nat} :
    natural? digits = some value ↔
      digits ≠ [] ∧
        (∀ digit ∈ digits, digit.isDigit) ∧
        Nat.ofDigitChars 10 digits 0 = value := by
  simp [natural?, and_assoc]

/-- Without a sign only digits are read. -/
private theorem numeral?_of_no_sign
    {characters : List Char}
    (noPlus : ∀ digits, characters ≠ '+' :: digits)
    (noMinus : ∀ digits, characters ≠ '-' :: digits) :
    numeral? characters = (natural? characters).map Int.ofNat := by
  unfold numeral?
  split
  · exact (noPlus _ rfl).elim
  · exact (noMinus _ rfl).elim
  · rfl

/-- Reading a numeral of any size succeeds on numerals. -/
theorem numeral?_eq_some
    {characters : List Char}
    {value : Int} :
    numeral? characters = some value ↔ Numeral characters value := by
  constructor
  · intro found
    unfold numeral? at found
    split at found
    · obtain ⟨_, isNatural, shape⟩ := Option.map_eq_some_iff.mp found
      obtain ⟨notEmpty, areDigits, rfl⟩ := natural?_eq_some.mp isNatural
      rw [← shape]
      exact .positive notEmpty areDigits
    · obtain ⟨_, isNatural, shape⟩ := Option.map_eq_some_iff.mp found
      obtain ⟨notEmpty, areDigits, rfl⟩ := natural?_eq_some.mp isNatural
      rw [← shape]
      exact .negative notEmpty areDigits
    · obtain ⟨_, isNatural, shape⟩ := Option.map_eq_some_iff.mp found
      obtain ⟨notEmpty, areDigits, rfl⟩ := natural?_eq_some.mp isNatural
      rw [← shape]
      exact .unsigned notEmpty areDigits
  · intro numeral
    cases numeral with
    | unsigned notEmpty areDigits =>
        rw [numeral?_of_no_sign,
          natural?_eq_some.mpr ⟨notEmpty, areDigits, rfl⟩]
        · rfl
        · rintro digits rfl
          exact absurd (areDigits '+' List.mem_cons_self) (by decide)
        · rintro digits rfl
          exact absurd (areDigits '-' List.mem_cons_self) (by decide)
    | positive notEmpty areDigits | negative notEmpty areDigits =>
        simp only [numeral?, natural?_eq_some.mpr ⟨notEmpty, areDigits, rfl⟩]
        rfl

/-- Reading an integer succeeds on the numerals that fit a signed word. -/
theorem integer?_eq_some
    {text : String}
    {value : Int} :
    integer? text = some value ↔
      Numeral text.toList value ∧ -wordBound ≤ value ∧ value < wordBound := by
  rw [integer?, Option.filter_eq_some_iff, numeral?_eq_some]
  simp [fitsWord]

end Keystroke.Text
