import Keystroke.Proofs.LineMatching
import Keystroke.Proofs.Reading

namespace Keystroke

/-!
# Letters in upper and lower case

A keyword may be written in any case.  Every rule commutes with upper case: it
accepts a line in upper case if it accepts the line, and reads the same
parameters in upper case.
-/

/-! ## Texts in upper case -/

namespace Text

/-- An upper case letter has a code between those of `A` and `Z`. -/
theorem toNat_toUpper_of_ne
    {character : Char}
    (changed : character.toUpper ≠ character) :
    65 ≤ character.toUpper.toNat ∧ character.toUpper.toNat ≤ 90 := by
  have lower : 97 ≤ character.toNat ∧ character.toNat ≤ 122 := by
    by_contra notLower
    exact changed (toUpper_of_not_lower notLower)
  have shifted := toNat_toUpper_of_lower lower
  omega

/-- Only a letter is the upper case of another character. -/
theorem eq_of_toUpper_eq
    {character sign : Char}
    (noLetter : ¬ (65 ≤ sign.toNat ∧ sign.toNat ≤ 90))
    (same : character.toUpper = sign) :
    character = sign := by
  by_contra different
  have changed : character.toUpper ≠ character := by
    rw [same]
    exact fun isSign => different isSign.symm
  have isLetter := toNat_toUpper_of_ne changed
  rw [same] at isLetter
  exact noLetter isLetter

/-- An upper case letter stays as it is. -/
@[simp] theorem toUpper_toUpper
    (character : Char) :
    character.toUpper.toUpper = character.toUpper := by
  by_cases same : character.toUpper = character
  · rw [same, same]
  · have isUpper := toNat_toUpper_of_ne same
    exact toUpper_of_not_lower (by omega)

/-- A letter or digit is one in upper case too. -/
theorem isAlphanum_toUpper
    (character : Char) :
    character.toUpper.isAlphanum = character.isAlphanum := by
  by_cases lower : 97 ≤ character.toNat ∧ character.toNat ≤ 122
  · have shifted := toNat_toUpper_of_lower lower
    rw [Bool.eq_iff_iff, isAlphanum_iff, isAlphanum_iff]
    omega
  · rw [toUpper_of_not_lower lower]

/-- A digit is one in upper case too. -/
theorem isDigit_toUpper
    (character : Char) :
    character.toUpper.isDigit = character.isDigit := by
  by_cases lower : 97 ≤ character.toNat ∧ character.toNat ≤ 122
  · have shifted := toNat_toUpper_of_lower lower
    rw [Bool.eq_iff_iff, isDigit_iff, isDigit_iff]
    omega
  · rw [toUpper_of_not_lower lower]

/-- A text in upper case stays as it is. -/
@[simp] theorem upper_upper
    (text : String) :
    upper (upper text) = upper text := by
  rw [← String.toList_inj]
  simp

/-- Upper case is taken of characters one by one. -/
theorem upper_ofList
    (characters : List Char) :
    upper (String.ofList characters) =
      String.ofList (characters.map Char.toUpper) := by
  rw [upper, String.toList_ofList]

/-- A text is empty if its upper case is. -/
@[simp] theorem isEmpty_upper
    (text : String) :
    (upper text).isEmpty = text.isEmpty := by
  rw [Bool.eq_iff_iff, String.isEmpty_iff, String.isEmpty_iff,
    ← String.toList_eq_nil_iff, ← String.toList_eq_nil_iff, toList_upper,
    List.map_eq_nil_iff]

/-- The blank characters at the start are the same in upper case. -/
theorem dropWhile_map_toUpper
    (characters : List Char) :
    (characters.map Char.toUpper).dropWhile isSpace =
      (characters.dropWhile isSpace).map Char.toUpper := by
  rw [List.dropWhile_map]
  have sameTest : isSpace ∘ Char.toUpper = isSpace :=
    funext isSpace_toUpper
  rw [sameTest]

/-- A text is trimmed in upper case as it is in any case. -/
theorem trim_upper
    (text : String) :
    trim (upper text) = upper (trim text) := by
  simp only [trim, trimEnd, trimStart, upper_ofList, String.toList_ofList,
    toList_upper, dropWhile_map_toUpper, ← List.map_reverse]

/-- Pieces in upper case are cut at the same places. -/
theorem pieces_map_toUpper
    {isSeparator : Char → Bool}
    (same :
      ∀ character, isSeparator character.toUpper = isSeparator character)
    (characters : List Char) :
    pieces isSeparator (characters.map Char.toUpper) =
      (pieces isSeparator characters).map (List.map Char.toUpper) := by
  induction characters with
  | nil =>
      rfl
  | cons first rest inductionHypothesis =>
      obtain ⟨piece, others, shape⟩ :=
        List.exists_cons_of_ne_nil (pieces_ne_nil isSeparator rest)
      have unfolded
          (first : Char)
          (rest : List Char) :
          pieces isSeparator (first :: rest) =
            prependTo isSeparator first (pieces isSeparator rest) :=
        rfl
      rw [List.map_cons, unfolded, unfolded, inductionHypothesis, shape]
      simp only [List.map_cons, prependTo, same]
      split <;> rfl

/-- The words of a text in upper case are its words in upper case. -/
theorem words_upper
    (text : String) :
    words (upper text) = (words text).map upper := by
  have sameWords :
      wordsOf (text.toList.map Char.toUpper) =
        (wordsOf text.toList).map (List.map Char.toUpper) := by
    rw [wordsOf, pieces_map_toUpper isSpace_toUpper, List.filter_map]
    congr 1
    apply List.filter_congr
    intro piece _
    cases piece <;> rfl
  rw [words_eq, words_eq, toList_upper, sameWords, List.map_map,
    List.map_map]
  apply List.map_congr_left
  intro word _
  exact (upper_ofList word).symm

end Text

/-- A word in upper case names the same modifier. -/
theorem Modifier.ofKeyword?_upper
    (word : String) :
    ofKeyword? (Text.upper word) = ofKeyword? word := by
  simp only [ofKeyword?, Text.upper_upper]

/-! ## Lines in upper case -/

namespace Grammar

/-- What a rule reads, with its parameters in upper case. -/
def Reading.upper
    (reading : Reading) :
    Reading :=
  { reading with parameters := reading.parameters.map Text.upper }

/-- What follows a keyword does so in upper case too. -/
theorem afterKeyword?_upper
    (keyword line : String) :
    afterKeyword? keyword (Text.upper line) =
      (afterKeyword? keyword line).map Text.upper := by
  have sameStart :
      sameLetters
          ((line.toList.map Char.toUpper).take keyword.toList.length)
          keyword.toList =
        sameLetters (line.toList.take keyword.toList.length)
          keyword.toList := by
    rw [sameLetters, sameLetters, ← List.map_take, List.map_map]
    congr 1
    apply List.map_congr_left
    intro character _
    exact Text.toUpper_toUpper character
  unfold afterKeyword?
  simp only [Text.toList_upper, sameStart, ← List.map_drop]
  split
  · cases line.toList.drop keyword.toList.length with
    | nil =>
        rfl
    | cons first rest =>
        simp only [List.map_cons, Text.isSpace_toUpper]
        split
        · rw [Text.dropWhile_map_toUpper, Option.map_some,
            Text.upper_ofList]
        · rfl
  · rfl

/-- An argument is an argument in upper case too. -/
theorem argument?_upper
    (keyword line : String) :
    argument? keyword (Text.upper line) =
      (argument? keyword line).map Text.upper := by
  rw [argument?, argument?, afterKeyword?_upper, Option.filter_map]
  congr 2
  funext rest
  exact congrArg not (Text.isEmpty_upper rest)

/-- A word is a token if it is one in upper case. -/
theorem isToken_upper
    (word : String) :
    isToken (Text.upper word) = isToken word := by
  have sameTest :
      Char.isAlphanum ∘ Char.toUpper = Char.isAlphanum :=
    funext Text.isAlphanum_toUpper
  rw [isToken, isToken, Text.isEmpty_upper, Text.toList_upper, List.all_map,
    sameTest]

/-- A combination in upper case has its words in upper case. -/
theorem combination?_upper
    (line : String) :
    combination? (Text.upper line) =
      (combination? line).map Reading.upper := by
  have sameTokens
      (tokens : List String) :
      (tokens.map Text.upper).all isToken = tokens.all isToken := by
    rw [List.all_map]
    exact congrArg tokens.all (funext isToken_upper)
  unfold combination?
  rw [Text.words_upper]
  match Text.words line with
  | [] | [_] =>
      rfl
  | first :: second :: others =>
      have areTokens := sameTokens (second :: others)
      rw [List.map_cons] at areTokens
      simp only [List.map_cons, Modifier.ofKeyword?_upper, areTokens]
      split <;> rfl

/-- A comment stays a comment, with its text in upper case. -/
theorem comment?_upper
    (line : String) :
    comment? (Text.upper line) = (comment? line).map Reading.upper := by
  unfold comment?
  rw [Text.toList_upper]
  match line.toList with
  | [] =>
      rfl
  | first :: text =>
      by_cases isSign : first = '#'
      · subst isSign
        simp [Reading.upper, Text.upper_ofList]
      · have isNoSign : first.toUpper ≠ '#' := by
          intro same
          exact isSign (Text.eq_of_toUpper_eq (by decide) same)
        simp [isSign, isNoSign]

/-- Every rule reads a line in upper case as it reads the line. -/
theorem read?_upper
    (rule : Rule)
    (line : String) :
    rule.read? (Text.upper line) = (rule.read? line).map Reading.upper := by
  cases rule with
  | combination =>
      exact combination?_upper line
  | delay =>
      simp only [Rule.read?, delay?, argument?_upper, Option.map_map]
      rfl
  | text =>
      simp only [Rule.read?, text?, afterKeyword?_upper, Option.map_map]
      rfl
  | key =>
      have sameKind :
          Kind.ofSingleWord? (Text.upper line) = Kind.ofSingleWord? line :=
        ofSingleWord?_congr (Text.upper_upper line)
      simp only [Rule.read?, key?, sameKind, Option.map_map]
      rfl
  | safeMode =>
      simp only [Rule.read?, safeMode?, argument?_upper]
      cases argument? Kind.safeMode.keyword line with
      | none =>
          rfl
      | some value =>
          simp only [Option.map_some, Text.upper_upper]
          split <;> rfl
  | attackMode =>
      simp only [Rule.read?, attackMode?, argument?_upper]
      cases argument? Kind.attackMode.keyword line with
      | none =>
          rfl
      | some mode =>
          have sameWords :
              (Text.words (Text.upper mode)).map Text.upper =
                (Text.words mode).map Text.upper := by
            rw [Text.words_upper, List.map_map]
            exact List.map_congr_left fun word _ => Text.upper_upper word
          simp only [Option.map_some, sameWords]
          split <;> rfl
  | comment =>
      exact comment?_upper line
  | remark =>
      simp only [Rule.read?, remark?, afterKeyword?_upper, Option.map_map]
      rfl

/-- A line in upper case is matched by the rule that matches the line. -/
theorem matchLine?_upper
    (line : String) :
    matchLine? (Text.upper line) =
      (matchLine? line).map fun (rule, reading) => (rule, reading.upper) := by
  unfold matchLine?
  rw [List.map_findSome?]
  congr 1
  funext rule
  rw [read?_upper, Function.comp_apply, Option.map_map, Option.map_map]
  rfl

end Grammar

end Keystroke
