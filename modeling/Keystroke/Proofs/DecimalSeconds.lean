import Keystroke.Text.Seconds
import Mathlib.Algebra.Field.Rat
import Mathlib.Data.List.TakeWhile
import Mathlib.Tactic.Positivity
import Mathlib.Tactic.Ring

namespace Keystroke.Text

/-!
# Durations as decimal fractions

A duration in milliseconds is written in seconds with three digits after the
point, of which the zeros at the end are taken away.  The result is a decimal
fraction without a superfluous digit, and its value is exactly the duration.  So
two durations are never written alike.
-/

/-! ## Decimal fractions -/

/-- A decimal fraction as it is written: digits before and behind a point. -/
structure Decimal where
  whole : List Char
  fraction : List Char
  deriving Repr, DecidableEq

namespace Decimal

/-- The text of a decimal fraction. -/
def text
    (decimal : Decimal) :
    String :=
  String.ofList decimal.whole ++ "." ++ String.ofList decimal.fraction

/-- The number that a decimal fraction stands for. -/
def value
    (decimal : Decimal) :
    ℚ :=
  Nat.ofDigitChars 10 decimal.whole 0 +
    Nat.ofDigitChars 10 decimal.fraction 0 / 10 ^ decimal.fraction.length

/--
The decimal fractions in thousandths without a superfluous digit.  A zero stands
first or last only if it is the one digit on its side of the point.
-/
structure Canonical
    (decimal : Decimal) :
    Prop where
  wholeDigits : ∀ digit ∈ decimal.whole, digit.isDigit
  wholeNotEmpty : decimal.whole ≠ []
  noLeadingZero :
    decimal.whole.head? = some '0' → decimal.whole = ['0']
  fractionDigits : ∀ digit ∈ decimal.fraction, digit.isDigit
  fractionNotEmpty : decimal.fraction ≠ []
  fractionLength : decimal.fraction.length ≤ 3
  noTrailingZero :
    decimal.fraction.getLast? = some '0' → decimal.fraction = ['0']

/-- A decimal fraction can be read off its text. -/
theorem Canonical.eq_of_text_eq
    {first second : Decimal}
    (firstCanonical : first.Canonical)
    (secondCanonical : second.Canonical)
    (sameText : first.text = second.text) :
    first = second := by
  -- No digit is a point, so the first point ends the digits before it.
  have cut
      {decimal : Decimal}
      (canonical : decimal.Canonical) :
      decimal.text.toList.span (· != '.') =
        (decimal.whole, '.' :: decimal.fraction) := by
    have noPoint : ∀ digit ∈ decimal.whole, (digit != '.') = true := by
      intro digit member
      have isDigit := canonical.wholeDigits digit member
      simp only [bne_iff_ne]
      rintro rfl
      cases isDigit
    have shape :
        decimal.text.toList =
          decimal.whole ++ '.' :: decimal.fraction := by
      simp [text]
    rw [shape, List.span_eq_takeWhile_dropWhile,
      List.takeWhile_append_of_pos noPoint,
      List.dropWhile_append_of_pos noPoint]
    simp
  have sameCut := (cut firstCanonical).symm.trans
    ((congrArg _ (congrArg _ sameText)).trans (cut secondCanonical))
  obtain ⟨sameWhole, sameFraction⟩ := Prod.mk.inj sameCut
  cases first
  cases second
  cases sameWhole
  cases sameFraction
  rfl

end Decimal

/-! ## The digits before the point -/

/-- A numeral starts with a zero only if it is the numeral of zero. -/
theorem toDigits_of_head?_eq_zero
    {number : Nat}
    (leads : (Nat.toDigits 10 number).head? = some '0') :
    Nat.toDigits 10 number = ['0'] := by
  induction number using Nat.strongRecOn with
  | ind number inductionHypothesis =>
      rw [Nat.toDigits_eq_if (by decide)] at leads ⊢
      split at leads
      · rename_i small
        rw [if_pos small]
        simpa using leads
      · rename_i large
        rw [List.head?_append_of_ne_nil _ Nat.toDigits_ne_nil] at leads
        have isZero :=
          inductionHypothesis (number / 10) (by omega) leads
        have quotient : number / 10 = 0 := by
          rw [← @Nat.ofDigitChars_ten_toDigits (number / 10), isZero]
          rfl
        omega

/-! ## The digits behind the point -/

/-- Only zeros are taken away from the end. -/
theorem exists_append_zeros
    (digits : List Char) :
    ∃ zeros,
      digits = dropTrailingZeros digits ++ List.replicate zeros '0' := by
  let trailing := digits.reverse.takeWhile (· == '0')
  refine ⟨trailing.length, ?_⟩
  have areZeros : trailing = List.replicate trailing.length '0' := by
    rw [List.eq_replicate_iff]
    refine ⟨rfl, ?_⟩
    intro digit member
    simpa using List.mem_takeWhile_imp member
  calc
    digits = (trailing ++ digits.reverse.dropWhile (· == '0')).reverse := by
      rw [List.takeWhile_append_dropWhile, List.reverse_reverse]
    _ = dropTrailingZeros digits ++ trailing.reverse := by
      rw [List.reverse_append, dropTrailingZeros]
    _ = dropTrailingZeros digits ++ List.replicate trailing.length '0' := by
      rw [areZeros, List.reverse_replicate, List.length_replicate]

/-- No zero is left at the end. -/
theorem getLast?_dropTrailingZeros
    (digits : List Char) :
    (dropTrailingZeros digits).getLast? ≠ some '0' := by
  intro isZero
  rw [dropTrailingZeros, List.getLast?_reverse] at isZero
  have stops := List.head?_dropWhile_not (· == '0') digits.reverse
  rw [isZero] at stops
  cases stops

/-- The three digits of a number below one thousand stand for it. -/
theorem ofDigitChars_thousandths
    {number : Nat}
    (small : number < 1000) :
    Nat.ofDigitChars 10 (thousandths number) 0 = number := by
  have hundreds : number / 100 < 10 := by omega
  have tens : number / 10 % 10 < 10 := by omega
  have ones : number % 10 < 10 := by omega
  rw [thousandths, Nat.ofDigitChars_cons_digitChar_of_lt_ten hundreds,
    Nat.ofDigitChars_cons_digitChar_of_lt_ten tens,
    Nat.ofDigitChars_cons_digitChar_of_lt_ten ones, Nat.ofDigitChars_nil]
  omega

/-- The three digits of a number below one thousand are digits. -/
theorem isDigit_of_mem_thousandths
    {number : Nat}
    (small : number < 1000) :
    ∀ digit ∈ thousandths number, digit.isDigit := by
  have hundreds : number / 100 < 10 := by omega
  have tens : number / 10 % 10 < 10 := by omega
  have ones : number % 10 < 10 := by omega
  simp [thousandths, Nat.isDigit_digitChar, hundreds, tens, ones]

/-- What is known about the digits behind the point for some thousandths. -/
structure Thousandths
    (number : Nat)
    (digits : List Char) :
    Prop where
  areDigits : ∀ digit ∈ digits, digit.isDigit
  notEmpty : digits ≠ []
  atMostThree : digits.length ≤ 3
  noTrailingZero : digits.getLast? = some '0' → digits = ['0']
  isExact :
    Nat.ofDigitChars 10 digits 0 * 1000 = number * 10 ^ digits.length

/-- The digits behind the point are exact and none of them is superfluous. -/
theorem thousandths_fractionDigits
    {number : Nat}
    (small : number < 1000) :
    Thousandths number (fractionDigits number) := by
  unfold fractionDigits
  split
  · rename_i isZero
    subst isZero
    exact ⟨List.forall_mem_singleton.mpr rfl, by decide, by decide,
      fun _ => rfl, by decide⟩
  · rename_i notZero
    obtain ⟨zeros, shape⟩ := exists_append_zeros (thousandths number)
    have noZero := getLast?_dropTrailingZeros (thousandths number)
    generalize dropTrailingZeros (thousandths number) = kept at shape noZero ⊢
    have length : kept.length + zeros = 3 := by
      simpa [thousandths] using (congrArg List.length shape).symm
    have scaled : 10 ^ zeros * Nat.ofDigitChars 10 kept 0 = number := by
      rw [← Nat.ofDigitChars_replicate_zero, ← Nat.ofDigitChars_append,
        ← shape, ofDigitChars_thousandths small]
    refine ⟨?_, ?_, by omega, fun isZero => absurd isZero noZero, ?_⟩
    · intro digit member
      refine isDigit_of_mem_thousandths small digit ?_
      rw [shape]
      exact List.mem_append_left _ member
    · rintro rfl
      rw [Nat.ofDigitChars_nil, Nat.mul_zero] at scaled
      exact notZero scaled.symm
    · calc
        Nat.ofDigitChars 10 kept 0 * 1000 =
            Nat.ofDigitChars 10 kept 0 * 10 ^ (kept.length + zeros) := by
          simp [length]
        _ = 10 ^ zeros * Nat.ofDigitChars 10 kept 0 * 10 ^ kept.length := by
          ring
        _ = number * 10 ^ kept.length := by
          rw [scaled]

/-! ## Durations -/

/-- The decimal fraction that a duration is written as. -/
def decimalSeconds
    (duration : Milliseconds) :
    Decimal where
  whole := Nat.toDigits 10 (duration.toNat / 1000)
  fraction := fractionDigits (duration.toNat % 1000)

/-- A duration is written as its decimal fraction. -/
theorem seconds_eq_text
    (duration : Milliseconds) :
    seconds duration = (decimalSeconds duration).text := by
  rw [seconds, Nat.repr_eq_ofList_toDigits]
  rfl

/-- The decimal fraction of a duration has no superfluous digit. -/
theorem canonical_decimalSeconds
    (duration : Milliseconds) :
    (decimalSeconds duration).Canonical := by
  have fraction :=
    thousandths_fractionDigits (Nat.mod_lt duration.toNat (by decide))
  exact
    { wholeDigits := fun _ member =>
        Nat.isDigit_of_mem_toDigits (by decide) (by decide) member
      wholeNotEmpty := Nat.toDigits_ne_nil
      noLeadingZero := toDigits_of_head?_eq_zero
      fractionDigits := fraction.areDigits
      fractionNotEmpty := fraction.notEmpty
      fractionLength := fraction.atMostThree
      noTrailingZero := fraction.noTrailingZero }

/-- A duration is a thousand times the value of its decimal fraction. -/
theorem value_decimalSeconds
    (duration : Milliseconds) :
    (decimalSeconds duration).value * 1000 = duration.toNat := by
  have isExact :=
    (thousandths_fractionDigits
      (Nat.mod_lt duration.toNat (by decide : 1000 > 0))).isExact
  have scaled :
      (Nat.ofDigitChars 10 (fractionDigits (duration.toNat % 1000)) 0 : ℚ) *
          1000 =
        (duration.toNat % 1000 : Nat) *
          10 ^ (fractionDigits (duration.toNat % 1000)).length := by
    exact_mod_cast isExact
  have divided :
      (duration.toNat : ℚ) =
        1000 * (duration.toNat / 1000 : Nat) +
          (duration.toNat % 1000 : Nat) := by
    exact_mod_cast (Nat.div_add_mod duration.toNat 1000).symm
  rw [Decimal.value, decimalSeconds, Nat.ofDigitChars_ten_toDigits, add_mul,
    div_mul_eq_mul_div, scaled, mul_div_assoc, div_self (by positivity),
    mul_one, divided]
  ring

/--
Seconds are exact.  Every duration is written as a decimal fraction with one to
three digits behind the point and without a superfluous digit, whose value is
the duration; so two durations are never written alike.
-/
theorem seconds_exact_and_canonical :
    (∀ duration : Milliseconds, ∃ decimal : Decimal,
        seconds duration = decimal.text ∧
          decimal.Canonical ∧
          decimal.value * 1000 = duration.toNat) ∧
      Function.Injective seconds := by
  constructor
  · intro duration
    exact ⟨decimalSeconds duration, seconds_eq_text duration,
      canonical_decimalSeconds duration, value_decimalSeconds duration⟩
  · intro first second same
    rw [seconds_eq_text, seconds_eq_text] at same
    have sameDecimal :=
      (canonical_decimalSeconds first).eq_of_text_eq
        (canonical_decimalSeconds second) same
    have sameValue : (first.toNat : ℚ) = second.toNat := by
      rw [← value_decimalSeconds, ← value_decimalSeconds, sameDecimal]
    exact UInt64.toNat_inj.mp (by exact_mod_cast sameValue)

example :
    [seconds 0, seconds 10, seconds 1010, seconds 18446744073709551615] =
      ["0.0", "0.01", "1.01", "18446744073709551.615"] := by
  decide

end Keystroke.Text
