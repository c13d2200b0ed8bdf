import Keystroke.Grammar
import Keystroke.Proofs.Words

namespace Keystroke.Grammar

/-!
# Keywords at the start of a line

A line with a keyword is the keyword in any case, a run of blank characters and
the rest of the line.  The blank characters may be missing only if the rest is
missing too.  Reading what follows a keyword succeeds exactly on such lines.
-/

/-- Characters that spell a word in any case of ASCII letters. -/
def Spells
    (word : String)
    (characters : List Char) :
    Prop :=
  characters.map Char.toUpper = word.toList.map Char.toUpper

/-- A word in upper case is spelled by what has it as its upper case. -/
theorem spells_iff
    {word : String}
    (isUpper : Text.upper word = word)
    {characters : List Char} :
    Spells word characters ↔
      Text.upper (String.ofList characters) = word := by
  have wordCharacters : word.toList.map Char.toUpper = word.toList := by
    rw [← Text.toList_upper, isUpper]
  rw [Spells, wordCharacters, ← String.toList_inj, Text.toList_upper,
    String.toList_ofList]

/-- A spelling has as many characters as the word. -/
theorem Spells.length_eq
    {word : String}
    {characters : List Char}
    (spells : Spells word characters) :
    characters.length = word.toList.length := by
  have sameLength := congrArg List.length spells
  simpa only [List.length_map] using sameLength

/-- A spelling of a word is a word. -/
theorem Spells.word
    {word : String}
    {characters : List Char}
    (spells : Spells word characters)
    (isWord : Text.Word word.toList) :
    Text.Word characters := by
  constructor
  · intro empty
    have sameLength := spells.length_eq
    rw [empty] at sameLength
    exact isWord.1 (List.length_eq_zero_iff.mp sameLength.symm)
  · intro character member
    have upperMember :
        character.toUpper ∈ word.toList.map Char.toUpper := by
      rw [← spells]
      exact List.mem_map_of_mem member
    obtain ⟨letter, letterMember, sameUpper⟩ := List.mem_map.mp upperMember
    rw [← Text.isSpace_toUpper, ← sameUpper, Text.isSpace_toUpper]
    exact isWord.2 letter letterMember

/-- What follows a keyword, without the blank characters between them. -/
structure Follows
    (keyword : String)
    (line rest : List Char)
    (start blanks : List Char) :
    Prop where
  shape : line = start ++ blanks ++ rest
  spells : Spells keyword start
  areBlank : ∀ character ∈ blanks, Text.isSpace character
  restStart :
    ∀ character, rest.head? = some character →
      Text.isSpace character = false
  atEnd : blanks = [] → rest = []

/-- Something follows a keyword only after blank characters. -/
theorem Follows.blank
    {keyword : String}
    {line rest start blanks : List Char}
    (follows : Follows keyword line rest start blanks)
    (notEmpty : rest ≠ []) :
    Text.Blank blanks :=
  ⟨fun none => notEmpty (follows.atEnd none), follows.areBlank⟩

/-- The first word of a line with a keyword is the keyword. -/
theorem Follows.wordsOf_eq
    {keyword : String}
    {line rest start blanks : List Char}
    (follows : Follows keyword line rest start blanks)
    (isWord : Text.Word keyword.toList) :
    Text.wordsOf line = start :: Text.wordsOf rest := by
  have startWord : Text.Word start := follows.spells.word isWord
  by_cases nothing : rest = []
  · subst nothing
    rw [follows.shape, List.append_nil]
    by_cases atEnd : blanks = []
    · rw [atEnd, List.append_nil, Text.wordsOf_word startWord]
      rfl
    · have isBlank : Text.Blank blanks := ⟨atEnd, follows.areBlank⟩
      have cut := Text.wordsOf_word_append startWord isBlank []
      rwa [List.append_nil] at cut
  · rw [follows.shape]
    exact Text.wordsOf_word_append startWord (follows.blank nothing) rest

/-- Reading what follows a keyword succeeds on the lines with the keyword. -/
theorem afterKeyword?_eq_some
    {keyword line rest : String} :
    afterKeyword? keyword line = some rest ↔
      ∃ start blanks,
        Follows keyword line.toList rest.toList start blanks := by
  constructor
  · intro found
    unfold afterKeyword? at found
    simp only [sameLetters, beq_iff_eq] at found
    split at found
    · rename_i spells
      have cut :
          line.toList =
            line.toList.take keyword.toList.length ++
              line.toList.drop keyword.toList.length :=
        (List.take_append_drop _ _).symm
      split at found
      · rename_i nothingLeft
        cases found
        refine ⟨line.toList.take keyword.toList.length, [], ?_, spells,
          by simp, by simp, by simp⟩
        rw [nothingLeft] at cut
        simpa using cut
      · rename_i first others left
        split at found
        · rename_i isBlank
          cases found
          refine ⟨line.toList.take keyword.toList.length,
            first :: others.takeWhile Text.isSpace, ?_, spells, ?_, ?_, by simp⟩
          · rw [left] at cut
            simpa using cut
          · intro character member
            rcases List.mem_cons.mp member with isFirst | inOthers
            · rw [isFirst]
              exact isBlank
            · exact List.mem_takeWhile_imp inOthers
          · intro character head
            rw [String.toList_ofList] at head
            exact Text.head?_dropWhile_isSpace head
        · cases found
    · cases found
  · rintro ⟨start, blanks, shape, spells, areBlank, restStart, atEnd⟩
    have taken : line.toList.take keyword.toList.length = start := by
      rw [shape, ← spells.length_eq, List.append_assoc]
      simp
    have dropped :
        line.toList.drop keyword.toList.length = blanks ++ rest.toList := by
      rw [shape, ← spells.length_eq, List.append_assoc]
      simp
    have sameUpper :
        start.map Char.toUpper = keyword.toList.map Char.toUpper :=
      spells
    unfold afterKeyword?
    simp only [sameLetters, taken, dropped, beq_iff_eq, sameUpper,
      ↓reduceIte]
    cases blanks with
    | nil =>
        have noRest : rest = "" :=
          String.toList_eq_nil_iff.mp (atEnd rfl)
        subst noRest
        rfl
    | cons first others =>
        have firstBlank : Text.isSpace first :=
          areBlank first List.mem_cons_self
        have othersBlank :
            ∀ character ∈ others, Text.isSpace character :=
          fun character member =>
            areBlank character (List.mem_cons_of_mem first member)
        have left :
            (others ++ rest.toList).dropWhile Text.isSpace = rest.toList := by
          rw [List.dropWhile_append_of_pos othersBlank]
          exact Text.dropWhile_eq_self restStart
        simp [firstBlank, left]

/-- An argument is what follows a keyword, if anything does. -/
theorem argument?_eq_some
    {keyword line rest : String} :
    argument? keyword line = some rest ↔
      afterKeyword? keyword line = some rest ∧ rest ≠ "" := by
  simp [argument?, Option.filter_eq_some_iff]

end Keystroke.Grammar
