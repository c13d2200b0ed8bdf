import Keystroke.Proofs.KnownKeys
import Keystroke.Proofs.LetterCase

namespace Keystroke

/-!
# The symbols of a combination as code

A token of a combination is written into a program as an expression.  A key with
a keyword has the symbol of its family, and a token that is spelled out consists
of letters and digits, so that almost every symbol is an identifier behind the
name of a library, or a character between quotes.  The exception is in
CircuitPython: a token of more than one character that starts with a digit is
passed through, and what follows the name of the library is no identifier.
-/

/-! ## Identifiers -/

namespace Text

/--
Whether characters are an identifier: an ASCII letter or an underscore, and then
letters, digits or underscores.
-/
def isIdentifier :
    List Char → Bool
  | [] =>
      false
  | first :: rest =>
      (first.isAlpha || first == '_') &&
        rest.all fun character => character.isAlphanum || character == '_'

/-- Whether characters are a quoted one: no quote, backslash or line feed. -/
def isQuotedCharacter :
    List Char → Bool
  | ['\x27', character, '\x27'] => character ∉ ['\x27', '\\', '\n']
  | _ => false

/-- Whether a text has more than one character and starts with a digit. -/
def leadsWithDigit
    (text : String) :
    Bool :=
  match text.toList with
  | first :: _ :: _ => first.isDigit
  | _ => false

/-- A letter or digit is a letter in upper case if it is no digit. -/
theorem isAlpha_toUpper_iff
    {character : Char}
    (alphanumeric : character.isAlphanum) :
    character.toUpper.isAlpha ↔ ¬ character.isDigit := by
  rw [isAlphanum_iff] at alphanumeric
  rw [isAlpha_iff, isDigit_iff]
  by_cases lower : 97 ≤ character.toNat ∧ character.toNat ≤ 122
  · have shifted := toNat_toUpper_of_lower lower
    omega
  · rw [toUpper_of_not_lower lower]
    omega

/-- A letter or digit is one in lower case too. -/
theorem isAlphanum_toLower
    {character : Char}
    (alphanumeric : character.isAlphanum) :
    character.toLower.isAlphanum := by
  by_cases upper : 65 ≤ character.toNat ∧ character.toNat ≤ 90
  · have shifted := toNat_toLower_of_upper upper
    rw [isAlphanum_iff]
    omega
  · rw [toLower_of_not_upper upper]
    exact alphanumeric

/-- A numeral is written with digits. -/
theorem isAlphanum_of_mem_repr
    (number : Nat) :
    ∀ character ∈ number.repr.toList, character.isAlphanum := by
  intro character member
  rw [Nat.toList_repr] at member
  have isDigit := Nat.isDigit_of_mem_toDigits (by decide) (by decide) member
  rw [Char.isAlphanum, isDigit, Bool.or_true]

/-- A text leads with a digit if its upper case does. -/
theorem leadsWithDigit_upper
    (text : String) :
    leadsWithDigit (upper text) = leadsWithDigit text := by
  unfold leadsWithDigit
  rw [toList_upper]
  rcases text.toList with _ | ⟨first, _ | ⟨second, rest⟩⟩
  · rfl
  · rfl
  · exact isDigit_toUpper first

/-- Letters and digits may follow an identifier. -/
theorem isIdentifier_append
    {front rest : List Char}
    (identifier : isIdentifier front)
    (alphanumeric : ∀ character ∈ rest, character.isAlphanum) :
    isIdentifier (front ++ rest) := by
  cases front with
  | nil =>
      cases identifier
  | cons first others =>
      obtain ⟨starts, othersFit⟩ := Bool.and_eq_true_iff.mp identifier
      rw [List.cons_append, isIdentifier, starts, List.all_append, othersFit,
        Bool.true_and, Bool.true_and, List.all_eq_true]
      intro character member
      rw [alphanumeric character member, Bool.true_or]

/-- A token in upper case is an identifier, unless it starts with a digit. -/
theorem isIdentifier_upper_iff
    {first : Char}
    {rest : List Char}
    (alphanumeric :
      ∀ character ∈ first :: rest, character.isAlphanum) :
    isIdentifier ((first :: rest).map Char.toUpper) ↔ ¬ first.isDigit := by
  obtain ⟨firstFits, restFits⟩ := List.forall_mem_cons.mp alphanumeric
  have noUnderscore : (first.toUpper == '_') = false := by
    rw [beq_eq_false_iff_ne]
    intro isUnderscore
    have impossible := isAlphanum_toUpper first
    rw [isUnderscore, firstFits] at impossible
    cases impossible
  have restAll :
      (rest.map Char.toUpper).all fun character =>
        character.isAlphanum || character == '_' := by
    rw [List.all_map, List.all_eq_true]
    intro character member
    simp [isAlphanum_toUpper, restFits character member]
  rw [List.map_cons, isIdentifier, noUnderscore, restAll, Bool.or_false,
    Bool.and_true]
  exact isAlpha_toUpper_iff firstFits

end Text

/-! ## Expressions for keys -/

namespace Family

/--
Whether characters are an expression for a key: a name of the library that is an
identifier, or in Arduino a quoted character.
-/
def isKeyExpression :
    Family → List Char → Bool
  | .circuitPython, symbol =>
      ['K', 'e', 'y', 'c', 'o', 'd', 'e', '.'].isPrefixOf symbol &&
        Text.isIdentifier (symbol.drop 8)
  | .arduino, symbol =>
      ['K', 'E', 'Y', '_'].isPrefixOf symbol && Text.isIdentifier symbol ||
        Text.isQuotedCharacter symbol

/--
Whether a token is passed through though no identifier starts like it: in
CircuitPython one that has more than one character and starts with a digit.
-/
def passesThrough :
    Family → String → Bool
  | .circuitPython, token => Text.leadsWithDigit token
  | .arduino, _ => false

/-- A name of the library is an expression if it is an identifier. -/
theorem isKeyExpression_keycode
    (name : String) :
    isKeyExpression .circuitPython ("Keycode." ++ name).toList =
      Text.isIdentifier name.toList := by
  have front :
      "Keycode.".toList = ['K', 'e', 'y', 'c', 'o', 'd', 'e', '.'] :=
    String.toList_ofList
  rw [String.toList_append, front]
  rfl

/-- Letters and digits behind the mark of the library are an expression. -/
theorem isKeyExpression_key
    {text : String}
    (alphanumeric : ∀ character ∈ text.toList, character.isAlphanum) :
    isKeyExpression .arduino ("KEY_" ++ text).toList := by
  have front : "KEY_".toList = ['K', 'E', 'Y', '_'] :=
    String.toList_ofList
  have identifier :
      Text.isIdentifier (['K', 'E', 'Y', '_'] ++ text.toList) :=
    Text.isIdentifier_append (by decide) alphanumeric
  rw [String.toList_append, front]
  exact Bool.or_eq_true_iff.mpr (.inl identifier)

/-- A letter or digit in lower case between quotes is an expression. -/
theorem isKeyExpression_quoted
    {character : Char}
    (alphanumeric : character.isAlphanum) :
    isKeyExpression .arduino
      ("'" ++ String.singleton character.toLower ++ "'").toList := by
  have allowed : character.toLower ∉ ['\x27', '\\', '\n'] := by
    intro member
    have fits := Text.isAlphanum_toLower alphanumeric
    simp only [List.mem_cons, List.not_mem_nil, or_false] at member
    rcases member with isSign | isSign | isSign <;>
      rw [isSign] at fits <;> cases fits
  have quoted :
      Text.isQuotedCharacter ['\x27', character.toLower, '\x27'] :=
    decide_eq_true allowed
  have shape :
      ("'" ++ String.singleton character.toLower ++ "'").toList =
        ['\x27', character.toLower, '\x27'] := by
    rw [String.toList_append, String.toList_append, String.toList_singleton]
    rfl
  rw [shape, isKeyExpression, quoted, Bool.or_true]

/-- A fixed symbol is an expression if its characters are. -/
theorem isKeyExpression_ofList
    {family : Family}
    {characters : List Char}
    (expression : family.isKeyExpression characters) :
    family.isKeyExpression (String.ofList characters).toList := by
  rwa [String.toList_ofList]

/-- The standard symbols are expressions. -/
theorem isKeyExpression_standardSymbol
    (family : Family)
    (key : Key) :
    family.isKeyExpression (Vocabulary.standardSymbol family key).toList := by
  cases key with
  | function index =>
      have digits := Text.isAlphanum_of_mem_repr (index.val + 1)
      cases family with
      | circuitPython =>
          have split : "Keycode.F" = "Keycode." ++ "F" := by
            decide
          rw [Vocabulary.standardSymbol, Vocabulary.circuitPythonSymbol,
            split, String.append_assoc, isKeyExpression_keycode,
            String.toList_append]
          exact Text.isIdentifier_append (by decide) digits
      | arduino =>
          have split : "KEY_F" = "KEY_" ++ "F" := by
            decide
          rw [Vocabulary.standardSymbol, Vocabulary.arduinoSymbol, split,
            String.append_assoc]
          refine isKeyExpression_key ?_
          rw [String.toList_append, List.forall_mem_append]
          exact ⟨List.forall_mem_singleton.mpr rfl, digits⟩
  | modifier held =>
      cases family <;> cases held <;>
        exact isKeyExpression_ofList (by decide)
  | _ =>
      cases family <;> exact isKeyExpression_ofList (by decide)

/-- A digit has a name in CircuitPython. -/
theorem digitName?_of_isDigit
    {character : Char}
    (isDigit : character.isDigit) :
    (digitName? [character]).isSome := by
  have named :
      ∀ code < 58, 48 ≤ code → (digitName? [Char.ofNat code]).isSome := by
    decide
  obtain ⟨above, below⟩ := Text.isDigit_iff.mp isDigit
  rw [← Char.ofNat_toNat character]
  exact named _ (by omega) above

/-- More than one character is no digit. -/
theorem digitName?_cons_cons
    (first second : Char)
    (others : List Char) :
    digitName? (first :: second :: others) = none := by
  simp [digitName?]

/-- The name of a digit is an identifier. -/
theorem isIdentifier_of_digitName?
    {characters : List Char}
    {name : String}
    (isName : digitName? characters = some name) :
    Text.isIdentifier name.toList := by
  unfold digitName? at isName
  split at isName
  case h_11 =>
    cases isName
  all_goals
    cases isName
    decide

section Spelling

variable
  {token : String}
  (alphanumeric : ∀ character ∈ token.toList, character.isAlphanum)

include alphanumeric

/-- A name in CircuitPython is an identifier, unless it leads with a digit. -/
theorem isIdentifier_digitName?_iff
    (notEmpty : token.toList ≠ []) :
    Text.isIdentifier
        ((digitName? token.toList).getD (Text.upper token)).toList ↔
      ¬ Text.leadsWithDigit token := by
  obtain ⟨first, rest, shape⟩ := List.exists_cons_of_ne_nil notEmpty
  rw [shape] at alphanumeric
  have upperIdentifier := Text.isIdentifier_upper_iff alphanumeric
  rw [← shape, ← Text.toList_upper] at upperIdentifier
  rw [Text.leadsWithDigit, shape]
  -- A single digit has a name of its own; more characters are left as they are.
  cases rest with
  | cons second others =>
      rw [digitName?_cons_cons]
      exact upperIdentifier
  | nil =>
      refine iff_of_true ?_ nofun
      cases named : digitName? [first] with
      | some name =>
          exact isIdentifier_of_digitName? named
      | none =>
          refine upperIdentifier.mpr fun isDigit => ?_
          have isNamed := digitName?_of_isDigit isDigit
          rw [named] at isNamed
          cases isNamed

/-- A token that is spelled out is an expression, unless it is passed through. -/
theorem isKeyExpression_spell_iff
    (notEmpty : token.toList ≠ [])
    (family : Family) :
    family.isKeyExpression (family.spell token).toList ↔
      ¬ family.passesThrough token := by
  cases family with
  | circuitPython =>
      rw [spell, isKeyExpression_keycode]
      exact isIdentifier_digitName?_iff alphanumeric notEmpty
  | arduino =>
      rw [spell]
      split
      · rename_i character shape
        have fits : character.isAlphanum :=
          alphanumeric character (by simp [shape])
        rw [if_pos fits]
        exact iff_of_true (isKeyExpression_quoted fits) nofun
      · refine iff_of_true (isKeyExpression_key ?_) nofun
        intro character member
        rw [Text.toList_upper] at member
        obtain ⟨written, isWritten, rfl⟩ := List.mem_map.mp member
        rw [Text.isAlphanum_toUpper, alphanumeric written isWritten]

end Spelling

/-- What is passed through stands in upper case behind the library's name. -/
theorem spell_of_passesThrough
    {family : Family}
    {token : String}
    (passed : family.passesThrough token) :
    family.spell token = "Keycode." ++ Text.upper token := by
  cases family with
  | arduino =>
      cases passed
  | circuitPython =>
      rw [passesThrough, Text.leadsWithDigit] at passed
      split at passed
      · rename_i shape
        rw [spell, shape, digitName?_cons_cons]
        rfl
      · cases passed

end Family

/-! ## Tokens -/

/-- A word that names a modifier does so in upper case. -/
theorem Modifier.upper_of_ofKeyword?
    {word : String}
    {held : Modifier}
    (named : ofKeyword? word = some held) :
    Text.upper word = held.keyword := by
  have isName := List.find?_some named
  simp only [decide_eq_true_eq] at isName
  exact isName.symm

namespace KeyName

/--
What a token names: a key with a keyword, and then the token starts with a
letter, or what it spells, and then it is no modifier.
-/
theorem ofToken_cases
    (token : String) :
    (∃ key,
        ofToken token = .known key ∧ Text.leadsWithDigit token = false) ∨
      (ofToken token = .spelled token ∧
        Modifier.ofKeyword? token = none) := by
  unfold ofToken Token.classify
  cases modifier : Modifier.ofKeyword? token with
  | some held =>
      refine .inl ⟨.modifier held, rfl, ?_⟩
      rw [← Text.leadsWithDigit_upper, Modifier.upper_of_ofKeyword? modifier]
      cases held <;> decide
  | none =>
      cases named : Key.ofAlias? token with
      | none =>
          exact .inr ⟨rfl, rfl⟩
      | some key =>
          refine .inl ⟨key, rfl, ?_⟩
          rw [← Text.leadsWithDigit_upper]
          unfold Key.ofAlias? at named
          split at named
          case h_9 =>
            cases named
          all_goals
            rename_i isName
            rw [isName]
            decide

end KeyName

/--
The symbol of a word on a standard device, if the word may stand in a
combination: an expression for a key, unless the word is passed through.
-/
theorem Command.exists_symbolFor_standard
    (command : Command)
    (id name : String)
    (family : Family)
    {word : String}
    (mayStand :
      (Modifier.ofKeyword? word).isSome ∨ Grammar.isToken word) :
    ∃ symbol,
      command.symbolFor (.standard id name family) (.ofToken word) =
          .ok symbol ∧
        (family.isKeyExpression symbol.toList ↔ ¬ family.passesThrough word) ∧
        (family.passesThrough word →
          symbol = "Keycode." ++ Text.upper word) := by
  rcases KeyName.ofToken_cases word with
    ⟨key, isKey, noDigit⟩ | ⟨isSpelled, noModifier⟩
  · have notPassed : ¬ family.passesThrough word := by
      cases family <;> simp [Family.passesThrough, noDigit]
    have hasSymbol :
        (Device.standard id name family).vocabulary.symbol? (.key key) =
          some (Vocabulary.standardSymbol family key) :=
      Vocabulary.symbol?_standard family key
    refine ⟨Vocabulary.standardSymbol family key, ?_,
      iff_of_true (family.isKeyExpression_standardSymbol key) notPassed,
      fun passed => absurd passed notPassed⟩
    rw [isKey, symbolFor, hasSymbol]
  · have isToken : Grammar.isToken word := by
      simpa [noModifier] using mayStand
    rw [Grammar.isToken, Bool.and_eq_true, List.all_eq_true] at isToken
    refine ⟨family.spell word, ?_,
      Family.isKeyExpression_spell_iff isToken.2 (by simpa using isToken.1)
        family,
      Family.spell_of_passesThrough⟩
    rw [isSpelled]
    rfl

/-! ## Combinations that were read -/

namespace Grammar

/-- Only the rule for combinations reads one. -/
theorem combination?_of_read?
    {rule : Rule}
    {line : String}
    {reading : Reading}
    (found : rule.read? line = some reading)
    (isCombination : reading.kind = .combination) :
    combination? line = some reading := by
  cases rule with
  | combination =>
      exact found
  | delay | text | remark =>
      obtain ⟨_, _, rfl⟩ := Option.map_eq_some_iff.mp found
      cases isCombination
  | key =>
      have noCombination : ∀ entry ∈ keyNames, entry.2 ≠ .combination := by
        decide
      cases key?_eq_some_iff.mp found with
      | key member _ =>
          exact absurd isCombination (noCombination _ member)
  | safeMode | attackMode =>
      simp only [Rule.read?, safeMode?, attackMode?] at found
      split at found
      · cases found
      · split at found
        · cases found
          cases isCombination
        · cases found
  | comment =>
      simp only [Rule.read?, comment?] at found
      split at found
      · cases found
        cases isCombination
      · cases found

/-- The parameters of a combination are modifiers or tokens. -/
theorem modifier_or_isToken_of_combination?
    {line : String}
    {reading : Reading}
    (found : combination? line = some reading) :
    ∀ word ∈ reading.parameters,
      (Modifier.ofKeyword? word).isSome ∨ isToken word := by
  unfold combination? at found
  split at found
  · split at found
    · rename_i first second others _ accepted
      cases found
      obtain ⟨isModifier, areTokens⟩ := Bool.and_eq_true_iff.mp accepted
      refine List.forall_mem_cons.mpr ⟨.inl isModifier, ?_⟩
      intro word member
      exact .inr (List.all_eq_true.mp areTokens word member)
    · cases found
  · cases found

/--
The symbols of a combination are code.  Every token of a line that is read as a
combination has a symbol on a device that is always known.  The symbol is an
expression for a key, unless the token is passed through: then it stands in upper
case behind the name of the library, and no identifier starts like it.
-/
theorem combination_symbol_isKeyExpression_iff
    {line : String}
    {rule : Rule}
    {reading : Reading}
    (matched : matchLine? line = some (rule, reading))
    (isCombination : reading.kind = .combination)
    {device : Device}
    (isBuiltin : device ∈ Registry.builtin.items)
    {token : String}
    (isParameter : token ∈ reading.parameters)
    (command : Command) :
    ∃ symbol,
      command.symbolFor device (.ofToken token) = .ok symbol ∧
        (device.family.isKeyExpression symbol.toList ↔
          ¬ device.family.passesThrough token) ∧
        (device.family.passesThrough token →
          symbol = "Keycode." ++ Text.upper token) := by
  obtain ⟨id, name, family, rfl⟩ :=
    Registry.exists_standard_of_mem_builtin isBuiltin
  have found :=
    combination?_of_read? (read?_of_matchLine? matched) isCombination
  exact command.exists_symbolFor_standard id name family
    (modifier_or_isToken_of_combination? found token isParameter)

/-- A digit has a name, though the token behind it is passed through. -/
theorem combination_symbol_isKeyExpression_iff_nine :
    matchLine? "ctrl\t9  9a" =
        some (.combination, ⟨.combination, ["ctrl", "9", "9a"]⟩) ∧
      Device.standard "raspberry_pi_pico" "Raspberry Pi Pico" .circuitPython ∈
        Registry.builtin.items ∧
      ∃ symbol,
        Command.symbolFor
              ⟨.combination, 1, "ctrl\t9  9a", ["ctrl", "9", "9a"]⟩
              (.standard "raspberry_pi_pico" "Raspberry Pi Pico"
                .circuitPython)
              (.ofToken "9") =
            .ok symbol ∧
          Family.isKeyExpression .circuitPython symbol.toList := by
  have matched :
      matchLine? "ctrl\t9  9a" =
        some (.combination, ⟨.combination, ["ctrl", "9", "9a"]⟩) := by
    decide
  have isBuiltin :
      Device.standard "raspberry_pi_pico" "Raspberry Pi Pico" .circuitPython ∈
        Registry.builtin.items :=
    List.mem_of_getElem? (i := 1) rfl
  obtain ⟨symbol, isSymbol, expression, _⟩ :=
    combination_symbol_isKeyExpression_iff matched rfl isBuiltin
      (show "9" ∈ ["ctrl", "9", "9a"] by decide)
      ⟨.combination, 1, "ctrl\t9  9a", ["ctrl", "9", "9a"]⟩
  exact ⟨matched, isBuiltin, symbol, isSymbol, expression.mpr (by decide)⟩

/-- A number is passed through, so its symbol is no expression. -/
theorem combination_symbol_of_number :
    matchLine? "CTRL 12" =
        some (.combination, ⟨.combination, ["CTRL", "12"]⟩) ∧
      Device.standard "raspberry_pi_pico" "Raspberry Pi Pico" .circuitPython ∈
        Registry.builtin.items ∧
      Command.symbolFor ⟨.combination, 1, "CTRL 12", ["CTRL", "12"]⟩
          (.standard "raspberry_pi_pico" "Raspberry Pi Pico" .circuitPython)
          (.ofToken "12") =
        .ok "Keycode.12" ∧
      Family.isKeyExpression .circuitPython "Keycode.12".toList = false := by
  refine ⟨by decide, ?_, by decide, by decide⟩
  exact List.mem_of_getElem? (i := 1) rfl

end Grammar

end Keystroke
