import Keystroke.Text.Case
import Keystroke.Text.Space
import Mathlib.Data.List.TakeWhile

namespace Keystroke.Text

/-!
# Blank characters, trimmed texts and words

A trimmed text is empty, or it is its words with blank characters between them.
`Spaced` describes the second case by its parts, and cutting such a text into
words finds exactly the words of that description.
-/

/-- The visible characters of ASCII are not blank. -/
theorem isSpace_of_visible
    {character : Char}
    (visible : 33 ≤ character.toNat ∧ character.toNat ≤ 126) :
    isSpace character = false := by
  simp only [isSpace, Bool.or_eq_false_iff, Bool.and_eq_false_iff,
    decide_eq_false_iff_not, beq_eq_false_iff_ne]
  omega

/-- The ASCII digits by their codes. -/
theorem isDigit_iff
    {character : Char} :
    character.isDigit ↔ 48 ≤ character.toNat ∧ character.toNat ≤ 57 :=
  Char.isDigit_iff_toNat

/-- The ASCII letters by their codes. -/
theorem isAlpha_iff
    {character : Char} :
    character.isAlpha ↔
      (65 ≤ character.toNat ∧ character.toNat ≤ 90) ∨
        (97 ≤ character.toNat ∧ character.toNat ≤ 122) := by
  have ranges :
      character.isAlpha =
        (decide (character.val ≥ 'A'.val ∧ character.val ≤ 'Z'.val) ||
          (character.val ≥ 'a'.val && character.val ≤ 'z'.val)) :=
    rfl
  rw [ranges]
  simp only [Bool.or_eq_true, Bool.and_eq_true, decide_eq_true_eq, ge_iff_le,
    UInt32.le_iff_toNat_le]
  rfl

/-- The ASCII letters and digits by their codes. -/
theorem isAlphanum_iff
    {character : Char} :
    character.isAlphanum ↔
      ((65 ≤ character.toNat ∧ character.toNat ≤ 90) ∨
          (97 ≤ character.toNat ∧ character.toNat ≤ 122)) ∨
        (48 ≤ character.toNat ∧ character.toNat ≤ 57) := by
  have either :
      character.isAlphanum = (character.isAlpha || character.isDigit) :=
    rfl
  rw [either, Bool.or_eq_true, isAlpha_iff, isDigit_iff]

/-- Letters and digits are not blank. -/
theorem isSpace_of_isAlphanum
    {character : Char}
    (alphanumeric : character.isAlphanum) :
    isSpace character = false := by
  rw [isAlphanum_iff] at alphanumeric
  exact isSpace_of_visible (by omega)

/-- The code of an upper case letter is that of the lower case less 32. -/
theorem toNat_toUpper_of_lower
    {character : Char}
    (lower : 97 ≤ character.toNat ∧ character.toNat ≤ 122) :
    character.toUpper.toNat = character.toNat - 32 := by
  have inRange : 'a'.val ≤ character.val ∧ character.val ≤ 'z'.val := by
    simpa [UInt32.le_iff_toNat_le] using lower
  have shifted : character.toUpper = _ :=
    dif_pos inRange
  rw [shifted]
  change (character.val + ('A'.val - 'a'.val)).toNat = character.toNat - 32
  rw [UInt32.toNat_add]
  change
    (character.toNat + 4294967264) % 4294967296 = character.toNat - 32
  omega

/-- Characters other than the lower case letters have no upper case. -/
theorem toUpper_of_not_lower
    {character : Char}
    (notLower : ¬ (97 ≤ character.toNat ∧ character.toNat ≤ 122)) :
    character.toUpper = character := by
  have notInRange :
      ¬ ('a'.val ≤ character.val ∧ character.val ≤ 'z'.val) := by
    simpa [UInt32.le_iff_toNat_le] using notLower
  exact dif_neg notInRange

/-- The code of a lower case letter is that of the upper case and 32. -/
theorem toNat_toLower_of_upper
    {character : Char}
    (upper : 65 ≤ character.toNat ∧ character.toNat ≤ 90) :
    character.toLower.toNat = character.toNat + 32 := by
  have inRange : 'A'.val ≤ character.val ∧ character.val ≤ 'Z'.val := by
    simpa [UInt32.le_iff_toNat_le] using upper
  have shifted : character.toLower = _ :=
    dif_pos inRange
  rw [shifted]
  change (character.val + ('a'.val - 'A'.val)).toNat = character.toNat + 32
  rw [UInt32.toNat_add]
  change (character.toNat + 32) % 4294967296 = character.toNat + 32
  omega

/-- Characters other than the upper case letters have no lower case. -/
theorem toLower_of_not_upper
    {character : Char}
    (notUpper : ¬ (65 ≤ character.toNat ∧ character.toNat ≤ 90)) :
    character.toLower = character := by
  have notInRange :
      ¬ ('A'.val ≤ character.val ∧ character.val ≤ 'Z'.val) := by
    simpa [UInt32.le_iff_toNat_le] using notUpper
  exact dif_neg notInRange

/-- A character is blank if its upper case is. -/
@[simp] theorem isSpace_toUpper
    (character : Char) :
    isSpace character.toUpper = isSpace character := by
  by_cases lower : 97 ≤ character.toNat ∧ character.toNat ≤ 122
  · have upper := toNat_toUpper_of_lower lower
    rw [isSpace_of_visible (by omega), isSpace_of_visible (by omega)]
  · rw [toUpper_of_not_lower lower]

/-- A run of blank characters: at least one, and no others. -/
def Blank
    (characters : List Char) :
    Prop :=
  characters ≠ [] ∧ ∀ character ∈ characters, isSpace character

/-- A single space is a run of blank characters. -/
theorem blank_space :
    Blank [' '] :=
  ⟨List.cons_ne_nil _ _, List.forall_mem_singleton.mpr (by decide)⟩

/-- A word: at least one character, and none that is blank. -/
def Word
    (characters : List Char) :
    Prop :=
  characters ≠ [] ∧ ∀ character ∈ characters, isSpace character = false

/-- Whether characters are a word can be found out. -/
instance (characters : List Char) :
    Decidable (Word characters) :=
  decidable_of_iff
    (characters ≠ [] ∧ characters.all fun character => !isSpace character)
    (by simp [Word])

/-- Neither the first nor the last character is blank. -/
structure Trimmed
    (characters : List Char) :
    Prop where
  start :
    ∀ character, characters.head? = some character →
      isSpace character = false
  finish :
    ∀ character, characters.getLast? = some character →
      isSpace character = false

/-- A word is trimmed. -/
theorem Word.trimmed
    {word : List Char}
    (isWord : Word word) :
    Trimmed word where
  start := by
    intro character head
    exact isWord.2 character (List.mem_of_head? head)
  finish := by
    intro character last
    exact isWord.2 character (List.mem_of_getLast? last)

/-- Nothing is dropped if the first character is kept. -/
theorem dropWhile_eq_self
    {characters : List Char}
    (start :
      ∀ character, characters.head? = some character →
        isSpace character = false) :
    characters.dropWhile isSpace = characters := by
  cases characters with
  | nil =>
      rfl
  | cons first rest =>
      simp [start first rfl]

/-- What is left after dropping the blank characters starts with no other. -/
theorem head?_dropWhile_isSpace
    {characters : List Char}
    {first : Char}
    (head : (characters.dropWhile isSpace).head? = some first) :
    isSpace first = false := by
  have kept := List.head?_dropWhile_not isSpace characters
  rw [head] at kept
  exact kept

/-- A text that trimming leaves as it is has no blank characters at its ends. -/
theorem trim_eq_self
    {text : String} :
    trim text = text ↔ Trimmed text.toList := by
  have charactersOfTrim :
      (trim text).toList =
        ((text.toList.dropWhile isSpace).reverse.dropWhile
          isSpace).reverse := by
    simp [trim, trimEnd, trimStart]
  constructor
  · intro same
    rw [same] at charactersOfTrim
    have startSuffix :
        text.toList.dropWhile isSpace <:+ text.toList :=
      List.dropWhile_suffix isSpace
    have finishSuffix :
        (text.toList.dropWhile isSpace).reverse.dropWhile isSpace <:+
          (text.toList.dropWhile isSpace).reverse :=
      List.dropWhile_suffix isSpace
    have startLength := startSuffix.length_le
    have finishLength := finishSuffix.length_le
    have wholeLength := congrArg List.length charactersOfTrim
    simp only [List.length_reverse] at finishLength wholeLength
    have startKept : text.toList.dropWhile isSpace = text.toList :=
      startSuffix.eq_of_length (by omega)
    constructor
    · intro character head
      rw [← startKept] at head
      exact head?_dropWhile_isSpace head
    · intro character last
      rw [charactersOfTrim, List.getLast?_reverse] at last
      exact head?_dropWhile_isSpace last
  · rintro ⟨start, finish⟩
    have startKept := dropWhile_eq_self start
    have finishKept :
        text.toList.reverse.dropWhile isSpace = text.toList.reverse := by
      apply dropWhile_eq_self
      simpa using finish
    apply String.toList_injective
    rw [charactersOfTrim, startKept, finishKept, List.reverse_reverse]

/-- Trimming leaves no blank characters at the ends. -/
theorem trimmed_trim
    (text : String) :
    Trimmed (trim text).toList where
  start := by
    intro character head
    have isPrefix :
        (trim text).toList <+: text.toList.dropWhile isSpace := by
      simp only [trim, trimEnd, trimStart, String.toList_ofList]
      rw [← List.reverse_suffix, List.reverse_reverse]
      exact List.dropWhile_suffix isSpace
    obtain ⟨rest, shape⟩ := isPrefix
    have sameHead :
        (text.toList.dropWhile isSpace).head? = some character := by
      rw [← shape, List.head?_append, head]
      rfl
    exact head?_dropWhile_isSpace sameHead
  finish := by
    intro character last
    simp only [trim, trimEnd, String.toList_ofList,
      List.getLast?_reverse] at last
    exact head?_dropWhile_isSpace last

/-- The end of a trimmed text is not blank, wherever the end begins. -/
theorem Trimmed.append_right
    {before after : List Char}
    (trimmed : Trimmed (before ++ after))
    (start :
      ∀ character, after.head? = some character →
        isSpace character = false) :
    Trimmed after where
  start := start
  finish := by
    intro character last
    apply trimmed.finish
    simp [List.getLast?_append, last]

/-- A trimmed text does not end in a run of blank characters. -/
theorem Trimmed.not_blank_append
    {before blanks : List Char}
    (blank : Blank blanks) :
    ¬ Trimmed (before ++ blanks) := by
  intro trimmed
  obtain ⟨last, isLast⟩ :=
    Option.isSome_iff_exists.mp (List.getLast?_isSome.mpr blank.1)
  have notBlank := trimmed.finish last (by simp [List.getLast?_append, isLast])
  have isBlank := blank.2 last (List.mem_of_getLast? isLast)
  rw [notBlank] at isBlank
  cases isBlank

/-- The words of a list of characters. -/
def wordsOf
    (characters : List Char) :
    List (List Char) :=
  (pieces isSpace characters).filter fun piece => !piece.isEmpty

/-- The words of a text are those of its characters. -/
theorem words_eq
    (text : String) :
    words text = (wordsOf text.toList).map String.ofList :=
  rfl

/-- Characters that are not separators belong to the first piece. -/
theorem pieces_append
    {isSeparator : Char → Bool}
    {start : List Char}
    (none : ∀ character ∈ start, isSeparator character = false)
    {piece : List Char}
    {others : List (List Char)}
    {rest : List Char}
    (restPieces : pieces isSeparator rest = piece :: others) :
    pieces isSeparator (start ++ rest) = (start ++ piece) :: others := by
  induction start with
  | nil =>
      exact restPieces
  | cons first start inductionHypothesis =>
      have continued :=
        inductionHypothesis fun character member =>
          none character (List.mem_cons_of_mem first member)
      have kept := none first List.mem_cons_self
      simp only [pieces, List.cons_append, List.foldr_cons] at continued ⊢
      rw [continued]
      simp [prependTo, kept]

/-- A separator starts a new piece. -/
theorem pieces_cons_separator
    {isSeparator : Char → Bool}
    {separator : Char}
    (isOne : isSeparator separator)
    (rest : List Char) :
    pieces isSeparator (separator :: rest) =
      [] :: pieces isSeparator rest := by
  obtain ⟨piece, others, shape⟩ :=
    List.exists_cons_of_ne_nil (pieces_ne_nil isSeparator rest)
  have unfolded :
      pieces isSeparator (separator :: rest) =
        prependTo isSeparator separator (pieces isSeparator rest) :=
    rfl
  rw [unfolded, shape]
  simp [prependTo, isOne]

/-- A blank character belongs to no word. -/
theorem wordsOf_cons_blank
    {blank : Char}
    (isBlank : isSpace blank)
    (rest : List Char) :
    wordsOf (blank :: rest) = wordsOf rest := by
  simp [wordsOf, pieces_cons_separator isBlank]

/-- Any other character at the start belongs to the first word. -/
theorem wordsOf_cons_visible
    {first : Char}
    (notBlank : isSpace first = false)
    (rest : List Char) :
    ∃ word others, wordsOf (first :: rest) = (first :: word) :: others := by
  obtain ⟨piece, others, shape⟩ :=
    List.exists_cons_of_ne_nil (pieces_ne_nil isSpace rest)
  have cut : pieces isSpace ([first] ++ rest) = ([first] ++ piece) :: others :=
    pieces_append (by simpa using notBlank) shape
  refine ⟨piece, others.filter fun piece => !piece.isEmpty, ?_⟩
  simp only [List.cons_append, List.nil_append] at cut
  simp [wordsOf, cut]

/-- Blank characters belong to no word. -/
theorem wordsOf_append_blanks
    {blanks : List Char}
    (areBlank : ∀ character ∈ blanks, isSpace character)
    (rest : List Char) :
    wordsOf (blanks ++ rest) = wordsOf rest := by
  induction blanks with
  | nil =>
      rfl
  | cons first blanks inductionHypothesis =>
      rw [List.cons_append, wordsOf_cons_blank (areBlank first (by simp))]
      exact inductionHypothesis fun character member =>
        areBlank character (List.mem_cons_of_mem first member)

/-- A word alone is its only word. -/
theorem wordsOf_word
    {word : List Char}
    (isWord : Word word) :
    wordsOf word = [word] := by
  have alone :
      pieces isSpace (word ++ []) = [word ++ []] :=
    pieces_append isWord.2 rfl
  rw [List.append_nil] at alone
  simp [wordsOf, alone, isWord.1]

/-- A word ends at a blank character. -/
theorem wordsOf_word_append
    {word blanks : List Char}
    (isWord : Word word)
    (isBlank : Blank blanks)
    (rest : List Char) :
    wordsOf (word ++ blanks ++ rest) = word :: wordsOf rest := by
  obtain ⟨first, others, shape⟩ := List.exists_cons_of_ne_nil isBlank.1
  subst shape
  have firstBlank : isSpace first :=
    isBlank.2 first List.mem_cons_self
  have othersBlank :
      ∀ character ∈ others, isSpace character :=
    fun character member =>
      isBlank.2 character (List.mem_cons_of_mem first member)
  have cut :
      pieces isSpace (word ++ first :: (others ++ rest)) =
        (word ++ []) :: pieces isSpace (others ++ rest) :=
    pieces_append isWord.2 (pieces_cons_separator firstBlank _)
  have unfolded :
      wordsOf (word ++ first :: others ++ rest) =
        word :: wordsOf (others ++ rest) := by
    simp only [wordsOf, List.append_assoc, List.cons_append, cut]
    simp [isWord.1]
  rw [unfolded, wordsOf_append_blanks othersBlank]

/-- Words with blank characters between them. -/
inductive Spaced : List Char → List (List Char) → Prop where
  | last
      {word : List Char} :
      Word word →
      Spaced word [word]
  | next
      {word blanks rest : List Char}
      {words : List (List Char)} :
      Word word →
      Blank blanks →
      Spaced rest words →
      Spaced (word ++ blanks ++ rest) (word :: words)

/-- Cutting spaced words gives back the words. -/
theorem Spaced.wordsOf_eq
    {characters : List Char}
    {words : List (List Char)}
    (spaced : Spaced characters words) :
    wordsOf characters = words := by
  induction spaced with
  | last isWord =>
      exact wordsOf_word isWord
  | next isWord isBlank _ inductionHypothesis =>
      rw [wordsOf_word_append isWord isBlank, inductionHypothesis]

/-- Spaced words have a first word. -/
theorem Spaced.exists_cons
    {characters : List Char}
    {words : List (List Char)}
    (spaced : Spaced characters words) :
    ∃ first others, words = first :: others := by
  cases spaced with
  | last isWord =>
      exact ⟨_, _, rfl⟩
  | next isWord isBlank restSpaced =>
      exact ⟨_, _, rfl⟩

/-- Spaced words start with a character that is not blank. -/
theorem Spaced.exists_first
    {characters : List Char}
    {words : List (List Char)}
    (spaced : Spaced characters words) :
    ∃ first rest, characters = first :: rest ∧ isSpace first = false := by
  have ofWord
      {word : List Char}
      (isWord : Word word)
      (after : List Char) :
      ∃ first rest, word ++ after = first :: rest ∧ isSpace first = false := by
    obtain ⟨first, rest, shape⟩ := List.exists_cons_of_ne_nil isWord.1
    subst shape
    exact ⟨first, rest ++ after, rfl, isWord.2 first List.mem_cons_self⟩
  cases spaced with
  | last isWord =>
      simpa using ofWord isWord []
  | next isWord isBlank restSpaced =>
      rw [List.append_assoc]
      exact ofWord isWord _

/-- Spaced words are not empty. -/
theorem Spaced.ne_nil
    {characters : List Char}
    {words : List (List Char)}
    (spaced : Spaced characters words) :
    characters ≠ [] := by
  obtain ⟨first, rest, shape, _⟩ := spaced.exists_first
  simp [shape]

/-- Spaced words do not start with a blank character. -/
theorem Spaced.start
    {characters : List Char}
    {words : List (List Char)}
    (spaced : Spaced characters words)
    (character : Char)
    (head : characters.head? = some character) :
    isSpace character = false := by
  obtain ⟨first, rest, shape, notBlank⟩ := spaced.exists_first
  rw [shape, List.head?_cons, Option.some_inj] at head
  rw [← head]
  exact notBlank

/-- The first word of a text that starts with one, and what follows it. -/
private theorem exists_first_word
    {characters : List Char}
    (notEmpty : characters ≠ [])
    (start :
      ∀ character, characters.head? = some character →
        isSpace character = false) :
    ∃ word rest,
      characters = word ++ rest ∧
        Word word ∧
        ∀ character, rest.head? = some character → isSpace character := by
  refine ⟨characters.takeWhile fun character => !isSpace character,
    characters.dropWhile fun character => !isSpace character,
    List.takeWhile_append_dropWhile.symm, ⟨?_, ?_⟩, ?_⟩
  · obtain ⟨first, rest, shape⟩ := List.exists_cons_of_ne_nil notEmpty
    subst shape
    simp [start first rfl]
  · intro character member
    simpa using List.mem_takeWhile_imp member
  · intro character head
    have kept :=
      List.head?_dropWhile_not (fun character => !isSpace character)
        characters
    rw [head] at kept
    simpa using kept

/-- The blank characters at the start of a text, and what follows them. -/
theorem exists_first_blanks
    (characters : List Char) :
    ∃ blanks rest,
      characters = blanks ++ rest ∧
        (∀ character ∈ blanks, isSpace character) ∧
        ∀ character, rest.head? = some character →
          isSpace character = false := by
  refine ⟨characters.takeWhile isSpace, characters.dropWhile isSpace,
    List.takeWhile_append_dropWhile.symm, ?_, ?_⟩
  · intro character member
    exact List.mem_takeWhile_imp member
  · intro character head
    exact head?_dropWhile_isSpace head

/-- A trimmed text that is not empty consists of spaced words. -/
theorem Trimmed.exists_spaced
    {characters : List Char}
    (trimmed : Trimmed characters)
    (notEmpty : characters ≠ []) :
    ∃ words, Spaced characters words := by
  induction size : characters.length using Nat.strongRecOn
    generalizing characters with
  | ind length inductionHypothesis =>
      obtain ⟨word, others, shape, isWord, othersStart⟩ :=
        exists_first_word notEmpty trimmed.start
      subst shape
      by_cases onlyWord : others = []
      · subst onlyWord
        exact ⟨[word], by simpa using Spaced.last isWord⟩
      · obtain ⟨blanks, rest, othersShape, areBlank, restStart⟩ :=
          exists_first_blanks others
        subst othersShape
        have blanksNotEmpty : blanks ≠ [] := by
          intro none
          subst none
          obtain ⟨first, _, restShape⟩ :=
            List.exists_cons_of_ne_nil onlyWord
          rw [List.nil_append] at restShape othersStart
          have isBlank := othersStart first (by simp [restShape])
          have notBlank := restStart first (by simp [restShape])
          rw [notBlank] at isBlank
          cases isBlank
        have isBlank : Blank blanks := ⟨blanksNotEmpty, areBlank⟩
        rw [← List.append_assoc] at trimmed
        have restNotEmpty : rest ≠ [] := by
          intro none
          subst none
          rw [List.append_nil] at trimmed
          exact Trimmed.not_blank_append isBlank trimmed
        have shorter : rest.length < length := by
          have wordLength := List.length_pos_iff.mpr isWord.1
          simp only [List.length_append] at size
          omega
        obtain ⟨words, restSpaced⟩ :=
          inductionHypothesis rest.length shorter
            (trimmed.append_right restStart) restNotEmpty rfl
        refine ⟨word :: words, ?_⟩
        rw [← List.append_assoc]
        exact .next isWord isBlank restSpaced

end Keystroke.Text
