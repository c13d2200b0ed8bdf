import Keystroke.Proofs.Keyword

namespace Keystroke.Grammar

/-!
# The grammar of a line

The grammar is a relation between a line and what is read from it, with a
constructor for each alternative of a production.  It is written without the
rules: a keyword is spelled in any case, a run of blank characters stands
between two parts of a line, and the text that a production captures is one of
the parts.
-/

/-- The names of the modifiers. -/
def modifierNames :
    List String :=
  ["MOD", "CTRL", "SHIFT", "ALT"]

/-- The names that may stand alone on a line, with the kinds they stand for. -/
def keyNames :
    List (String × Kind) :=
  [("ENTER", .key .enter), ("SPACE", .key .space), ("TAB", .key .tab),
    ("BACKSPACE", .key .backspace), ("DELETE", .key .delete),
    ("UP", .key .up), ("DOWN", .key .down), ("LEFT", .key .left),
    ("RIGHT", .key .right), ("HOME", .key .home), ("END", .key .lineEnd),
    ("INSERT", .key .insert), ("PAGE_UP", .key .pageUp),
    ("PAGE_DOWN", .key .pageDown), ("ESCAPE", .key .escape),
    ("F1", .key (.function 0)), ("F2", .key (.function 1)),
    ("F3", .key (.function 2)), ("F4", .key (.function 3)),
    ("F5", .key (.function 4)), ("F6", .key (.function 5)),
    ("F7", .key (.function 6)), ("F8", .key (.function 7)),
    ("F9", .key (.function 8)), ("F10", .key (.function 9)),
    ("F11", .key (.function 10)), ("F12", .key (.function 11)),
    ("MOD", .key (.modifier .gui)), ("CTRL", .key (.modifier .control)),
    ("SHIFT", .key (.modifier .shift)), ("ALT", .key (.modifier .alt)),
    ("PAUSE", .pause)]

/-- At least one character, and all of them ASCII letters or digits. -/
def Token
    (characters : List Char) :
    Prop :=
  characters ≠ [] ∧ ∀ character ∈ characters, character.isAlphanum

/-- Tokens with runs of blank characters between them. -/
inductive Tokens : List Char → List (List Char) → Prop where
  | last
      {token : List Char} :
      Token token →
      Tokens token [token]
  | next
      {token blanks rest : List Char}
      {tokens : List (List Char)} :
      Token token →
      Text.Blank blanks →
      Tokens rest tokens →
      Tokens (token ++ blanks ++ rest) (token :: tokens)

/-- A keyword, a run of blank characters and the characters after them. -/
inductive Keyed
    (keyword : String) :
    List Char → List Char → Prop where
  | keyed
      {start blanks : List Char}
      (any : List Char) :
      Spells keyword start →
      Text.Blank blanks →
      Keyed keyword (start ++ blanks ++ any) any

/-- The modes that an attack mode may be set to. -/
inductive Mode : List Char → Prop where
  | single
      {name : String}
      {value : List Char} :
      name ∈ ["HID", "STORAGE", "ON", "OFF"] →
      Spells name value →
      Mode value
  | pair
      {first blanks second : List Char} :
      Spells "HID" first →
      Text.Blank blanks →
      Spells "STORAGE" second →
      Mode (first ++ blanks ++ second)

/-- The text that is left when the blank characters at its start are left out. -/
def captured
    (any : List Char) :
    String :=
  String.ofList (any.dropWhile Text.isSpace)

/-- The productions of the grammar with what they read. -/
inductive Production : Rule → List Char → Reading → Prop where
  | combination
      {name : String}
      {modifier blanks rest : List Char}
      {tokens : List (List Char)} :
      name ∈ modifierNames →
      Spells name modifier →
      Text.Blank blanks →
      Tokens rest tokens →
      Production .combination (modifier ++ blanks ++ rest)
        ⟨.combination, (modifier :: tokens).map String.ofList⟩
  | delay
      {line any : List Char} :
      Keyed "DELAY" line any →
      any ≠ [] →
      Production .delay line ⟨.delay, [captured any]⟩
  | emptyText
      {line : List Char} :
      Spells "STRING" line →
      Production .text line ⟨.text, [""]⟩
  | text
      {line any : List Char} :
      Keyed "STRING" line any →
      any ≠ [] →
      Production .text line ⟨.text, [captured any]⟩
  | key
      {name : String}
      {kind : Kind}
      {line : List Char} :
      (name, kind) ∈ keyNames →
      Spells name line →
      Production .key line ⟨kind, []⟩
  | safeMode
      {name : String}
      {line value : List Char} :
      name ∈ ["ON", "OFF"] →
      Keyed "SAFE_MODE" line value →
      Spells name value →
      Production .safeMode line ⟨.safeMode, [String.ofList value]⟩
  | attackMode
      {line value : List Char} :
      Keyed "ATTACKMODE" line value →
      Mode value →
      Production .attackMode line ⟨.attackMode, [String.ofList value]⟩
  | comment
      (any : List Char) :
      Production .comment ('#' :: any) ⟨.comment, [String.ofList any]⟩
  | emptyRemark
      {line : List Char} :
      Spells "REM" line →
      Production .remark line ⟨.remark, [""]⟩
  | remark
      {line any : List Char} :
      Keyed "REM" line any →
      any ≠ [] →
      Production .remark line ⟨.remark, [captured any]⟩

/-- A line is a command of some production, or it is empty. -/
inductive LineForm : List Char → Prop where
  | command
      {rule : Rule}
      {line : List Char}
      {reading : Reading} :
      Production rule line reading →
      LineForm line
  | empty :
      LineForm []

/-! ## What follows a keyword -/

/-- Characters spell a word if both have the same upper case. -/
theorem spells_toList
    {word text : String} :
    Spells word text.toList ↔ Text.upper text = Text.upper word := by
  rw [Spells, ← String.toList_inj, Text.toList_upper, Text.toList_upper]

/-- What stands after a keyword and blank characters is found there. -/
theorem Keyed.afterKeyword?_eq
    {keyword line : String}
    {any : List Char}
    (keyed : Keyed keyword line.toList any) :
    afterKeyword? keyword line = some (captured any) := by
  generalize shape : line.toList = characters at keyed
  cases keyed with
  | keyed _ spells blank =>
      rename_i start blanks
      apply afterKeyword?_eq_some.mpr
      refine ⟨start, blanks ++ any.takeWhile Text.isSpace, ?_, spells, ?_, ?_,
        ?_⟩
      · simp [shape, captured]
      · intro character member
        rcases List.mem_append.mp member with inBlanks | inAny
        · exact blank.2 character inBlanks
        · exact List.mem_takeWhile_imp inAny
      · intro character head
        rw [captured, String.toList_ofList] at head
        exact Text.head?_dropWhile_isSpace head
      · intro none
        exact (blank.1 (List.append_eq_nil_iff.mp none).1).elim

/-- What is captured at the end of a trimmed line is not empty. -/
theorem Keyed.captured_ne_empty
    {keyword : String}
    {line any : List Char}
    (keyed : Keyed keyword line any)
    (trimmed : Text.Trimmed line)
    (notEmpty : any ≠ []) :
    captured any ≠ "" := by
  cases keyed with
  | keyed _ spells blank =>
      intro nothing
      have allBlank :
          ∀ character ∈ any, Text.isSpace character := by
        rw [← List.dropWhile_eq_nil_iff]
        exact String.ofList_eq_empty_iff.mp nothing
      exact Text.Trimmed.not_blank_append ⟨notEmpty, allBlank⟩ trimmed

/-- Something that follows a keyword stands after blank characters. -/
theorem Follows.keyed
    {keyword : String}
    {line rest start blanks : List Char}
    (follows : Follows keyword line rest start blanks)
    (notEmpty : rest ≠ []) :
    Keyed keyword line rest := by
  rw [follows.shape]
  exact .keyed rest follows.spells (follows.blank notEmpty)

/-- Nothing is left out of a text that starts with no blank character. -/
theorem captured_eq
    {rest : List Char}
    (start :
      ∀ character, rest.head? = some character →
        Text.isSpace character = false) :
    captured rest = String.ofList rest := by
  rw [captured, Text.dropWhile_eq_self start]

/-- On a trimmed line an argument is what a keyword and blanks leave. -/
theorem argument?_eq_some_iff
    {keyword line rest : String}
    (trimmed : Text.Trimmed line.toList) :
    argument? keyword line = some rest ↔
      ∃ any,
        Keyed keyword line.toList any ∧ any ≠ [] ∧ rest = captured any := by
  rw [argument?_eq_some]
  constructor
  · rintro ⟨found, notEmpty⟩
    obtain ⟨start, blanks, follows⟩ := afterKeyword?_eq_some.mp found
    have restNotEmpty : rest.toList ≠ [] := by
      simpa using notEmpty
    refine ⟨rest.toList, follows.keyed restNotEmpty, restNotEmpty, ?_⟩
    rw [captured_eq follows.restStart, String.ofList_toList]
  · rintro ⟨any, keyed, notEmpty, restShape⟩
    rw [restShape]
    exact ⟨keyed.afterKeyword?_eq, keyed.captured_ne_empty trimmed notEmpty⟩

/-- On a trimmed line an argument consists of spaced words. -/
theorem argument?_eq_some_iff_spaced
    {keyword line rest : String}
    (trimmed : Text.Trimmed line.toList) :
    argument? keyword line = some rest ↔
      Keyed keyword line.toList rest.toList ∧
        ∃ words, Text.Spaced rest.toList words := by
  constructor
  · intro found
    obtain ⟨after, notEmpty⟩ := argument?_eq_some.mp found
    obtain ⟨start, blanks, follows⟩ := afterKeyword?_eq_some.mp after
    have restNotEmpty : rest.toList ≠ [] := by
      simpa using notEmpty
    refine ⟨follows.keyed restNotEmpty, ?_⟩
    rw [follows.shape] at trimmed
    exact (trimmed.append_right follows.restStart).exists_spaced restNotEmpty
  · rintro ⟨keyed, words, spaced⟩
    refine (argument?_eq_some_iff trimmed).mpr
      ⟨rest.toList, keyed, spaced.ne_nil, ?_⟩
    rw [captured_eq spaced.start, String.ofList_toList]

/-- On a trimmed line a keyword stands alone or before blanks and a text. -/
theorem afterKeyword?_eq_some_iff
    {keyword line rest : String}
    (trimmed : Text.Trimmed line.toList) :
    afterKeyword? keyword line = some rest ↔
      (Spells keyword line.toList ∧ rest = "") ∨
        ∃ any,
          Keyed keyword line.toList any ∧ any ≠ [] ∧ rest = captured any := by
  rw [← argument?_eq_some_iff trimmed, argument?_eq_some]
  constructor
  · intro found
    by_cases nothing : rest = ""
    · left
      refine ⟨?_, nothing⟩
      subst nothing
      obtain ⟨start, blanks, follows⟩ := afterKeyword?_eq_some.mp found
      have shape := follows.shape
      rw [String.toList_empty, List.append_nil] at shape
      have noBlanks : blanks = [] := by
        by_contra some
        rw [shape] at trimmed
        exact Text.Trimmed.not_blank_append ⟨some, follows.areBlank⟩ trimmed
      rw [shape, noBlanks, List.append_nil]
      exact follows.spells
    · exact .inr ⟨found, nothing⟩
  · rintro (⟨spells, nothing⟩ | ⟨found, _⟩)
    · subst nothing
      apply afterKeyword?_eq_some.mpr
      exact ⟨line.toList, [], by simp, spells, by simp, by simp, by simp⟩
    · exact found

/-! ## Tokens and modes -/

/-- Characters spell one of some words if their upper case is one of them. -/
theorem exists_spells_iff
    {names : List String}
    (areUpper : ∀ name ∈ names, Text.upper name = name)
    {characters : List Char} :
    (∃ name ∈ names, Spells name characters) ↔
      Text.upper (String.ofList characters) ∈ names := by
  constructor
  · rintro ⟨name, member, spells⟩
    rw [(spells_iff (areUpper name member)).mp spells]
    exact member
  · intro member
    exact ⟨_, member, (spells_iff (areUpper _ member)).mpr rfl⟩

/-- A token is a word. -/
theorem Token.word
    {characters : List Char}
    (isToken : Token characters) :
    Text.Word characters :=
  ⟨isToken.1, fun character member =>
    Text.isSpace_of_isAlphanum (isToken.2 character member)⟩

/-- The words that may stand in a combination are the tokens. -/
theorem isToken_iff
    {characters : List Char} :
    isToken (String.ofList characters) ↔ Token characters := by
  simp [isToken, Token]

/-- Texts are tokens if their characters are. -/
theorem all_isToken_iff
    {tokens : List (List Char)} :
    (tokens.map String.ofList).all isToken ↔
      ∀ token ∈ tokens, Token token := by
  simp [isToken_iff]

/-- Tokens are spaced words that are tokens. -/
theorem tokens_iff
    {characters : List Char}
    {tokens : List (List Char)} :
    Tokens characters tokens ↔
      Text.Spaced characters tokens ∧ ∀ token ∈ tokens, Token token := by
  constructor
  · intro derived
    induction derived with
    | last isToken =>
        exact ⟨.last isToken.word, by simpa using isToken⟩
    | next isToken blank _ inductionHypothesis =>
        obtain ⟨spaced, areTokens⟩ := inductionHypothesis
        refine ⟨.next isToken.word blank spaced, ?_⟩
        intro token member
        rcases List.mem_cons.mp member with isFirst | inRest
        · rw [isFirst]
          exact isToken
        · exact areTokens token inRest
  · rintro ⟨spaced, areTokens⟩
    induction spaced with
    | last isWord =>
        exact .last (areTokens _ List.mem_cons_self)
    | next isWord blank _ inductionHypothesis =>
        apply Tokens.next (areTokens _ List.mem_cons_self) blank
        apply inductionHypothesis
        intro token member
        exact areTokens token (List.mem_cons_of_mem _ member)

/-- The words that name a modifier spell one of the names. -/
theorem isSome_modifier_iff
    {word : List Char} :
    (Modifier.ofKeyword? (String.ofList word)).isSome ↔
      ∃ name ∈ modifierNames, Spells name word := by
  rw [exists_spells_iff (by decide)]
  simp only [Modifier.ofKeyword?, Modifier.all, List.find?_isSome,
    List.mem_cons, List.not_mem_nil, modifierNames]
  simp only [exists_eq_or_imp, Modifier.keyword]
  grind

/-- A mode consists of the words that an attack mode accepts. -/
theorem Mode.exists_spaced
    {value : List Char}
    (mode : Mode value) :
    ∃ words,
      Text.Spaced value words ∧
        isAttackMode
          (words.map fun word => Text.upper (String.ofList word)) := by
  cases mode with
  | single member spells =>
      rename_i name
      have areModes :
          ∀ name ∈ ["HID", "STORAGE", "ON", "OFF"],
            Text.Word name.toList ∧ Text.upper name = name ∧
              isAttackMode [name] := by
        decide
      have isName := areModes name member
      refine ⟨[value], .last (spells.word isName.1), ?_⟩
      rw [List.map_singleton, (spells_iff isName.2.1).mp spells]
      exact isName.2.2
  | pair firstSpells blank secondSpells =>
      refine ⟨_, .next (firstSpells.word (by decide)) blank
        (.last (secondSpells.word (by decide))), ?_⟩
      rw [List.map_cons, List.map_singleton,
        (spells_iff (by decide)).mp firstSpells,
        (spells_iff (by decide)).mp secondSpells]
      rfl

/-- The words that an attack mode accepts are those of the modes. -/
theorem isAttackMode_iff
    {value : List Char}
    {words : List (List Char)}
    (spaced : Text.Spaced value words) :
    isAttackMode (words.map fun word => Text.upper (String.ofList word)) ↔
      Mode value := by
  constructor
  · intro accepted
    cases spaced with
    | last isWord =>
        simp only [List.map_cons, List.map_nil, isAttackMode, Bool.or_eq_true,
          beq_iff_eq] at accepted
        have isName :
            Text.upper (String.ofList value) ∈
              ["HID", "STORAGE", "ON", "OFF"] := by
          simpa [or_assoc] using accepted
        obtain ⟨name, member, spells⟩ :=
          (exists_spells_iff (by decide)).mpr isName
        exact .single member spells
    | next isWord blank restSpaced =>
        cases restSpaced with
        | last restWord =>
            simp only [List.map_cons, List.map_nil, isAttackMode,
              Bool.and_eq_true, beq_iff_eq] at accepted
            exact .pair ((spells_iff (by decide)).mpr accepted.1) blank
              ((spells_iff (by decide)).mpr accepted.2)
        | next _ _ othersSpaced =>
            cases othersSpaced <;> cases accepted
  · intro mode
    obtain ⟨found, foundSpaced, accepted⟩ := mode.exists_spaced
    rw [← spaced.wordsOf_eq, foundSpaced.wordsOf_eq]
    exact accepted

/-! ## The rules one by one -/

/-- The rule for combinations accepts what its production derives. -/
theorem combination?_eq_some_iff
    {line : String}
    {reading : Reading}
    (trimmed : Text.Trimmed line.toList) :
    combination? line = some reading ↔
      Production .combination line.toList reading := by
  unfold combination?
  rw [Text.words_eq]
  generalize line.toList = characters at trimmed
  constructor
  · intro found
    by_cases empty : characters = []
    · rw [empty] at found
      cases found
    · obtain ⟨words, spaced⟩ := trimmed.exists_spaced empty
      rw [spaced.wordsOf_eq] at found
      cases spaced with
      | last isWord =>
          cases found
      | next isWord blank restSpaced =>
          obtain ⟨second, others, shape⟩ := restSpaced.exists_cons
          subst shape
          simp only [List.map_cons] at found
          split at found
          · rename_i accepted
            cases found
            rw [Bool.and_eq_true, ← List.map_cons, all_isToken_iff,
              isSome_modifier_iff] at accepted
            obtain ⟨⟨name, member, spells⟩, areTokens⟩ := accepted
            exact .combination member spells blank
              (tokens_iff.mpr ⟨restSpaced, areTokens⟩)
          · cases found
  · intro derived
    cases derived with
    | combination member spells blank tokens =>
        rename_i name modifier blanks rest tokens
        obtain ⟨restSpaced, areTokens⟩ := tokens_iff.mp tokens
        obtain ⟨second, others, shape⟩ := restSpaced.exists_cons
        subst shape
        have areWords :
            ∀ name ∈ modifierNames, Text.Word name.toList := by
          decide
        have isWord : Text.Word modifier :=
          spells.word (areWords name member)
        have isModifier :
            (Modifier.ofKeyword? (String.ofList modifier)).isSome :=
          isSome_modifier_iff.mpr ⟨name, member, spells⟩
        have cut := (Text.Spaced.next isWord blank restSpaced).wordsOf_eq
        rw [← all_isToken_iff] at areTokens
        rw [cut]
        simp only [List.map_cons] at areTokens ⊢
        simp only [isModifier, areTokens, Bool.and_self, ↓reduceIte]

/-- The rule for delays accepts what its production derives. -/
theorem delay?_eq_some_iff
    {line : String}
    {reading : Reading}
    (trimmed : Text.Trimmed line.toList) :
    delay? line = some reading ↔
      Production .delay line.toList reading := by
  simp only [delay?, Kind.keyword, Option.map_eq_some_iff,
    argument?_eq_some_iff trimmed]
  constructor
  · rintro ⟨value, ⟨any, keyed, notEmpty, valueShape⟩, readingShape⟩
    rw [← readingShape, valueShape]
    exact .delay keyed notEmpty
  · intro derived
    cases derived with
    | delay keyed notEmpty =>
        exact ⟨_, ⟨_, keyed, notEmpty, rfl⟩, rfl⟩

/-- The rule for texts accepts what its productions derive. -/
theorem text?_eq_some_iff
    {line : String}
    {reading : Reading}
    (trimmed : Text.Trimmed line.toList) :
    text? line = some reading ↔
      Production .text line.toList reading := by
  simp only [text?, Kind.keyword, Option.map_eq_some_iff,
    afterKeyword?_eq_some_iff trimmed]
  constructor
  · rintro ⟨text, alone | ⟨any, keyed, notEmpty, textShape⟩, readingShape⟩
    · rw [← readingShape, alone.2]
      exact .emptyText alone.1
    · rw [← readingShape, textShape]
      exact .text keyed notEmpty
  · intro derived
    cases derived with
    | emptyText spells =>
        exact ⟨"", .inl ⟨spells, rfl⟩, rfl⟩
    | text keyed notEmpty =>
        exact ⟨_, .inr ⟨_, keyed, notEmpty, rfl⟩, rfl⟩

/-- The rule for remarks accepts what its productions derive. -/
theorem remark?_eq_some_iff
    {line : String}
    {reading : Reading}
    (trimmed : Text.Trimmed line.toList) :
    remark? line = some reading ↔
      Production .remark line.toList reading := by
  simp only [remark?, Kind.keyword, Option.map_eq_some_iff,
    afterKeyword?_eq_some_iff trimmed]
  constructor
  · rintro ⟨text, alone | ⟨any, keyed, notEmpty, textShape⟩, readingShape⟩
    · rw [← readingShape, alone.2]
      exact .emptyRemark alone.1
    · rw [← readingShape, textShape]
      exact .remark keyed notEmpty
  · intro derived
    cases derived with
    | emptyRemark spells =>
        exact ⟨"", .inl ⟨spells, rfl⟩, rfl⟩
    | remark keyed notEmpty =>
        exact ⟨_, .inr ⟨_, keyed, notEmpty, rfl⟩, rfl⟩

/-- The rule for comments accepts what its production derives. -/
theorem comment?_eq_some_iff
    {line : String}
    {reading : Reading} :
    comment? line = some reading ↔
      Production .comment line.toList reading := by
  unfold comment?
  constructor
  · intro found
    split at found
    · rename_i any shape
      cases found
      rw [shape]
      exact .comment any
    · cases found
  · intro derived
    generalize line.toList = characters at derived
    cases derived with
    | comment any =>
        rfl

/-- The kind of a line with one word only depends on its upper case. -/
theorem ofSingleWord?_congr
    {first second : String}
    (sameUpper : Text.upper first = Text.upper second) :
    Kind.ofSingleWord? first = Kind.ofSingleWord? second := by
  simp only [Kind.ofSingleWord?, Key.ofKeyword?, sameUpper]

/-- The rule for keys accepts what its production derives. -/
theorem key?_eq_some_iff
    {line : String}
    {reading : Reading} :
    key? line = some reading ↔
      Production .key line.toList reading := by
  simp only [key?, Option.map_eq_some_iff]
  constructor
  · rintro ⟨kind, found, readingShape⟩
    rw [← readingShape]
    unfold Kind.ofSingleWord? at found
    split at found
    · rename_i pressed isKey
      cases found
      have areNames :
          ∀ pressed ∈ Key.all,
            (pressed.keyword, .key pressed) ∈ keyNames ∧
              Text.upper pressed.keyword = pressed.keyword := by
        decide
      unfold Key.ofKeyword? at isKey
      have isName := areNames pressed (List.mem_of_find?_eq_some isKey)
      have sameName := List.find?_some isKey
      simp only [decide_eq_true_eq] at sameName
      refine .key isName.1 (spells_toList.mpr ?_)
      rw [isName.2, sameName]
    · split at found
      · rename_i isPause
        cases found
        have isName : ("PAUSE", Kind.pause) ∈ keyNames := by
          decide
        exact .key isName (spells_toList.mpr isPause)
      · cases found
  · intro derived
    cases derived with
    | key member spells =>
        rename_i name kind
        have areKinds :
            ∀ entry ∈ keyNames,
              Kind.ofSingleWord? entry.1 = some entry.2 := by
          decide
        refine ⟨kind, ?_, rfl⟩
        rw [ofSingleWord?_congr (spells_toList.mp spells)]
        exact areKinds (name, kind) member

/-- The rule for safe mode accepts what its production derives. -/
theorem safeMode?_eq_some_iff
    {line : String}
    {reading : Reading}
    (trimmed : Text.Trimmed line.toList) :
    safeMode? line = some reading ↔
      Production .safeMode line.toList reading := by
  constructor
  · intro found
    unfold safeMode? at found
    split at found
    · cases found
    · rename_i value isArgument
      split at found
      · rename_i accepted
        cases found
        have keyed :=
          ((argument?_eq_some_iff_spaced trimmed).mp isArgument).1
        have isName :
            Text.upper (String.ofList value.toList) ∈ ["ON", "OFF"] := by
          simpa using accepted
        obtain ⟨name, member, spells⟩ :=
          (exists_spells_iff (by decide)).mpr isName
        have derived := Production.safeMode member keyed spells
        rwa [String.ofList_toList] at derived
      · cases found
  · intro derived
    cases derived with
    | safeMode member keyed spells =>
        rename_i name value
        have areWords :
            ∀ name ∈ ["ON", "OFF"], Text.Word name.toList := by
          decide
        have isWord : Text.Word value :=
          spells.word (areWords name member)
        have isArgument :
            argument? "SAFE_MODE" line = some (String.ofList value) := by
          rw [argument?_eq_some_iff_spaced trimmed, String.toList_ofList]
          exact ⟨keyed, [value], .last isWord⟩
        have accepted :=
          (exists_spells_iff (by decide)).mp ⟨name, member, spells⟩
        simp only [List.mem_cons, List.not_mem_nil, or_false] at accepted
        simp only [safeMode?, Kind.keyword, isArgument, accepted, ↓reduceIte]

/-- The rule for attack modes accepts what its production derives. -/
theorem attackMode?_eq_some_iff
    {line : String}
    {reading : Reading}
    (trimmed : Text.Trimmed line.toList) :
    attackMode? line = some reading ↔
      Production .attackMode line.toList reading := by
  constructor
  · intro found
    unfold attackMode? at found
    split at found
    · cases found
    · rename_i value isArgument
      split at found
      · rename_i accepted
        cases found
        obtain ⟨keyed, words, spaced⟩ :=
          (argument?_eq_some_iff_spaced trimmed).mp isArgument
        rw [Text.words_eq, spaced.wordsOf_eq, List.map_map] at accepted
        have mode := (isAttackMode_iff spaced).mp accepted
        have derived := Production.attackMode keyed mode
        rwa [String.ofList_toList] at derived
      · cases found
  · intro derived
    cases derived with
    | attackMode keyed mode =>
        rename_i value
        obtain ⟨words, spaced, accepted⟩ := mode.exists_spaced
        have isArgument :
            argument? "ATTACKMODE" line = some (String.ofList value) := by
          rw [argument?_eq_some_iff_spaced trimmed, String.toList_ofList]
          exact ⟨keyed, words, spaced⟩
        have cut :
            (Text.words (String.ofList value)).map Text.upper =
              words.map fun word => Text.upper (String.ofList word) := by
          rw [Text.words_eq, String.toList_ofList, spaced.wordsOf_eq,
            List.map_map]
          rfl
        simp only [attackMode?, Kind.keyword, isArgument, cut, accepted,
          ↓reduceIte]

/-- Every rule accepts what its productions derive. -/
theorem read?_eq_some_iff
    {rule : Rule}
    {line : String}
    {reading : Reading}
    (trimmed : Text.Trimmed line.toList) :
    rule.read? line = some reading ↔
      Production rule line.toList reading := by
  cases rule with
  | combination =>
      exact combination?_eq_some_iff trimmed
  | delay =>
      exact delay?_eq_some_iff trimmed
  | text =>
      exact text?_eq_some_iff trimmed
  | key =>
      exact key?_eq_some_iff
  | safeMode =>
      exact safeMode?_eq_some_iff trimmed
  | attackMode =>
      exact attackMode?_eq_some_iff trimmed
  | comment =>
      exact comment?_eq_some_iff
  | remark =>
      exact remark?_eq_some_iff trimmed

end Keystroke.Grammar
