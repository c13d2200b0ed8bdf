import Keystroke.Proofs.AcceptedScript
import Keystroke.Proofs.ProgramLines

namespace Keystroke

/-!
# Printing a script and reading it again

A command is printed in the plainest form that its rule accepts: the keyword in
upper case, one blank before an argument, and one blank between two tokens.
Every production derives the printed form of what it reads, so a script that was
read can be printed and read again without losing a kind or a parameter.  After
that printing changes nothing.
-/

/-! ## Texts that are trimmed by their parts -/

namespace Text

/-- What stands between two trimmed texts does not matter. -/
theorem Trimmed.enclose
    {first last : List Char}
    (firstTrimmed : Trimmed first)
    (lastTrimmed : Trimmed last)
    (firstVisible : first ≠ [])
    (lastVisible : last ≠ [])
    (between : List Char) :
    Trimmed (first ++ between ++ last) where
  start := by
    intro character head
    rw [List.append_assoc, List.head?_append_of_ne_nil _ firstVisible] at head
    exact firstTrimmed.start character head
  finish := by
    intro character isLast
    rw [List.getLast?_append_of_ne_nil _ lastVisible] at isLast
    exact lastTrimmed.finish character isLast

/-- Spaced words are trimmed. -/
theorem Spaced.trimmed
    {characters : List Char}
    {words : List (List Char)}
    (spaced : Spaced characters words) :
    Trimmed characters := by
  induction spaced with
  | last isWord =>
      exact isWord.trimmed
  | next isWord _ restSpaced inductionHypothesis =>
      exact isWord.trimmed.enclose inductionHypothesis isWord.1
        restSpaced.ne_nil _

/-- Words that are joined by single blanks are spaced. -/
theorem spaced_intercalate
    {words : List (List Char)}
    (some : words ≠ [])
    (areWords : ∀ word ∈ words, Word word) :
    Spaced (" ".intercalate (words.map String.ofList)).toList words := by
  induction words with
  | nil =>
      exact absurd rfl some
  | cons first rest inductionHypothesis =>
      have isWord := areWords first List.mem_cons_self
      by_cases noRest : rest = []
      · rw [noRest, List.map_singleton, String.intercalate_singleton,
          String.toList_ofList]
        exact .last isWord
      · have restSpaced :=
          inductionHypothesis noRest fun word member =>
            areWords word (List.mem_cons_of_mem first member)
        rw [List.map_cons,
          String.intercalate_cons_of_ne_nil (by simpa using noRest),
          String.toList_append, String.toList_append, String.toList_ofList]
        exact .next isWord blank_space restSpaced

/-- Joined texts lack what the texts and the separator lack. -/
theorem lacks_intercalate
    {sign : Char}
    {separator : String}
    {texts : List String}
    (textsLack : ∀ text ∈ texts, Lacks sign text)
    (separatorLacks : Lacks sign separator) :
    Lacks sign (separator.intercalate texts) := by
  induction texts with
  | nil =>
      exact List.not_mem_nil
  | cons first rest inductionHypothesis =>
      have firstLacks := textsLack first List.mem_cons_self
      have restLacks :=
        inductionHypothesis fun text member =>
          textsLack text (List.mem_cons_of_mem first member)
      by_cases noRest : rest = []
      · rw [noRest, String.intercalate_singleton]
        exact firstLacks
      · rw [String.intercalate_cons_of_ne_nil noRest]
        exact lacks_append.mpr
          ⟨lacks_append.mpr ⟨firstLacks, separatorLacks⟩, restLacks⟩

end Text

/-! ## The printed form of a line -/

namespace Grammar

/-- A keyword before its argument; without an argument it stands alone. -/
def keyedLine
    (keyword : String)
    (argument : String) :
    String :=
  if argument = "" then
    keyword
  else
    keyword ++ " " ++ argument

/-- The line that is printed for what a rule reads. -/
def Reading.print
    (reading : Reading) :
    String :=
  let argument := reading.parameters.head?.getD ""
  match reading.kind with
  | .comment =>
      "#" ++ argument
  | .delay | .text | .remark | .safeMode | .attackMode =>
      keyedLine reading.kind.keyword argument
  | .combination =>
      " ".intercalate reading.parameters
  | kind =>
      kind.keyword

/-- An argument that is not empty stands after the keyword and a blank. -/
theorem keyed_keyedLine
    (keyword : String)
    {argument : String}
    (visible : argument ≠ "") :
    Keyed keyword (keyedLine keyword argument).toList argument.toList := by
  have shape :
      (keyedLine keyword argument).toList =
        keyword.toList ++ [' '] ++ argument.toList := by
    simp [keyedLine, visible]
  rw [shape]
  exact .keyed argument.toList rfl Text.blank_space

/-- A keyword with a trimmed argument is trimmed. -/
theorem trimmed_keyedLine
    {keyword argument : String}
    (isWord : Text.Word keyword.toList)
    (trimmed : Text.Trimmed argument.toList) :
    Text.Trimmed (keyedLine keyword argument).toList := by
  unfold keyedLine
  split
  · exact isWord.trimmed
  · rename_i visible
    rw [String.toList_append, String.toList_append]
    exact isWord.trimmed.enclose trimmed isWord.1 (by simpa using visible) _

/-- What is captured at the end of a trimmed line is trimmed. -/
theorem Keyed.trimmed_captured
    {keyword : String}
    {line any : List Char}
    (keyed : Keyed keyword line any)
    (trimmed : Text.Trimmed line) :
    Text.Trimmed (captured any).toList := by
  cases keyed with
  | keyed _ spells blank =>
      rename_i start blanks
      rw [← any.takeWhile_append_dropWhile (p := Text.isSpace),
        ← List.append_assoc] at trimmed
      rw [captured, String.toList_ofList]
      exact trimmed.append_right fun _ => Text.head?_dropWhile_isSpace

/-- What was captured once is captured as it is. -/
theorem captured_toList_captured
    (any : List Char) :
    captured (captured any).toList = captured any := by
  rw [captured_eq, String.ofList_toList]
  intro character head
  rw [captured, String.toList_ofList] at head
  exact Text.head?_dropWhile_isSpace head

/-- What a rule reads is read again by the rule from its printed form. -/
structure Reprints
    (rule : Rule)
    (reading : Reading) :
    Prop where
  trimmed : Text.Trimmed reading.print.toList
  derives : Production rule reading.print.toList reading

/-- A keyword with an argument is printed with one blank between them. -/
theorem reprints_keyed
    {rule : Rule}
    {kind : Kind}
    {argument : String}
    (production :
      ∀ {line}, Keyed kind.keyword line argument.toList →
        Production rule line ⟨kind, [argument]⟩)
    (isPrinted :
      Reading.print ⟨kind, [argument]⟩ = keyedLine kind.keyword argument)
    (isWord : Text.Word kind.keyword.toList)
    (trimmed : Text.Trimmed argument.toList)
    (visible : argument ≠ "") :
    Reprints rule ⟨kind, [argument]⟩ := by
  constructor
  · rw [isPrinted]
    exact trimmed_keyedLine isWord trimmed
  · rw [isPrinted]
    exact production (keyed_keyedLine kind.keyword visible)

/-- What a keyword captures at the end of a trimmed line is captured again. -/
theorem reprints_captured
    {rule : Rule}
    {kind : Kind}
    {line any : List Char}
    (production :
      ∀ {line any}, Keyed kind.keyword line any → any ≠ [] →
        Production rule line ⟨kind, [captured any]⟩)
    (isPrinted :
      Reading.print ⟨kind, [captured any]⟩ =
        keyedLine kind.keyword (captured any))
    (isWord : Text.Word kind.keyword.toList)
    (keyed : Keyed kind.keyword line any)
    (trimmed : Text.Trimmed line)
    (notEmpty : any ≠ []) :
    Reprints rule ⟨kind, [captured any]⟩ := by
  have visible := keyed.captured_ne_empty trimmed notEmpty
  refine reprints_keyed ?_ isPrinted isWord
    (keyed.trimmed_captured trimmed) visible
  intro printed printedKeyed
  have again := production printedKeyed (by simpa using visible)
  rwa [captured_toList_captured] at again

/-- An argument of spaced words is printed after its keyword and a blank. -/
theorem reprints_spaced
    {rule : Rule}
    {kind : Kind}
    {value : List Char}
    {words : List (List Char)}
    (production :
      ∀ {line}, Keyed kind.keyword line value →
        Production rule line ⟨kind, [String.ofList value]⟩)
    (isPrinted :
      Reading.print ⟨kind, [String.ofList value]⟩ =
        keyedLine kind.keyword (String.ofList value))
    (isWord : Text.Word kind.keyword.toList)
    (spaced : Text.Spaced value words) :
    Reprints rule ⟨kind, [String.ofList value]⟩ := by
  refine reprints_keyed ?_ isPrinted isWord ?_ ?_
  · intro line keyed
    rw [String.toList_ofList] at keyed
    exact production keyed
  · rw [String.toList_ofList]
    exact spaced.trimmed
  · rw [Ne, String.ofList_eq_empty_iff]
    exact spaced.ne_nil

/-- A combination is printed with single blanks between its words. -/
theorem reprints_combination
    {name : String}
    {modifier : List Char}
    {tokens : List (List Char)}
    (member : name ∈ modifierNames)
    (spells : Spells name modifier)
    (some : tokens ≠ [])
    (areTokens : ∀ token ∈ tokens, Token token) :
    Reprints .combination
      ⟨.combination, (modifier :: tokens).map String.ofList⟩ := by
  have areNames :
      ∀ name ∈ modifierNames, Text.Word name.toList := by
    decide
  have isWord : Text.Word modifier := spells.word (areNames name member)
  have restSpaced :=
    Text.spaced_intercalate some fun token member =>
      (areTokens token member).word
  have shape :
      (Reading.print
          ⟨.combination, (modifier :: tokens).map String.ofList⟩).toList =
        modifier ++ [' '] ++
          (" ".intercalate (tokens.map String.ofList)).toList := by
    simp only [Reading.print, List.map_cons]
    rw [String.intercalate_cons_of_ne_nil (by simpa using some)]
    simp
  constructor
  · rw [shape]
    exact (Text.Spaced.next isWord Text.blank_space restSpaced).trimmed
  · rw [shape]
    exact .combination member spells Text.blank_space
      (tokens_iff.mpr ⟨restSpaced, areTokens⟩)

/-- A line with the name of a key is printed as the name. -/
theorem reprints_key
    {name : String}
    {kind : Kind}
    (member : (name, kind) ∈ keyNames) :
    Reprints .key ⟨kind, []⟩ := by
  have arePrinted :
      ∀ entry ∈ keyNames,
        Reading.print ⟨entry.2, []⟩ = entry.1 ∧
          Text.Word entry.1.toList := by
    decide
  obtain ⟨isName, isWord⟩ := arePrinted (name, kind) member
  constructor
  · rw [isName]
    exact isWord.trimmed
  · rw [isName]
    exact .key member rfl

/-- A production derives the printed form of what it reads. -/
theorem Production.reprints
    {rule : Rule}
    {line : List Char}
    {reading : Reading}
    (derived : Production rule line reading)
    (trimmed : Text.Trimmed line) :
    Reprints rule reading := by
  cases derived with
  | combination member spells blank tokens =>
      obtain ⟨spaced, areTokens⟩ := tokens_iff.mp tokens
      obtain ⟨first, others, shape⟩ := spaced.exists_cons
      exact reprints_combination member spells (by simp [shape]) areTokens
  | delay keyed notEmpty =>
      exact reprints_captured .delay rfl (by decide) keyed trimmed notEmpty
  | emptyText spells =>
      exact ⟨Text.trim_eq_self.mp (by decide), .emptyText rfl⟩
  | text keyed notEmpty =>
      exact reprints_captured .text rfl (by decide) keyed trimmed notEmpty
  | key member spells =>
      exact reprints_key member
  | safeMode member keyed spells =>
      rename_i name value
      have areNames :
          ∀ name ∈ ["ON", "OFF"], Text.Word name.toList := by
        decide
      have isWord : Text.Word value := spells.word (areNames name member)
      exact reprints_spaced (.safeMode member · spells) rfl (by decide)
        (.last isWord)
  | attackMode keyed mode =>
      obtain ⟨words, spaced, _⟩ := mode.exists_spaced
      exact reprints_spaced (.attackMode · mode) rfl (by decide) spaced
  | comment any =>
      have shape :
          (Reading.print ⟨.comment, [String.ofList any]⟩).toList =
            '#' :: any := by
        simp [Reading.print]
      constructor
      · rw [shape]
        exact trimmed
      · rw [shape]
        exact .comment any
  | emptyRemark spells =>
      exact ⟨Text.trim_eq_self.mp (by decide), .emptyRemark rfl⟩
  | remark keyed notEmpty =>
      exact reprints_captured .remark rfl (by decide) keyed trimmed notEmpty

end Grammar

/-! ## Printed scripts -/

/-- A keyword has no control character, unless it is a word of its own. -/
theorem Kind.lacks_keyword
    {sign : Char}
    (control : sign.toNat < 32)
    {kind : Kind}
    (name : ∀ name, kind = .custom name → Text.Lacks sign name) :
    Text.Lacks sign kind.keyword := by
  cases kind with
  | key pressed =>
      exact Key.lacks_keyword control pressed
  | custom word =>
      exact name word rfl
  | _ =>
      exact Text.lacks_ofList control rfl

namespace Command

/-- The line that a command is printed as. -/
def print
    (command : Command) :
    String :=
  command.reading.print

/-- The command as it is read from its printed line with the given number. -/
def printedAt
    (number : Nat)
    (command : Command) :
    Command :=
  { command with
    line := number
    rawText := command.print }

/-- The printed line of a command that was read is read in the same way. -/
theorem WasRead.reprints
    {command : Command}
    (wasRead : command.WasRead) :
    ∃ rule, Grammar.Reprints rule command.reading := by
  obtain ⟨rule, found⟩ := wasRead.accepted
  have derived := (Grammar.read?_eq_some_iff wasRead.trimmed).mp found
  exact ⟨rule, derived.reprints wasRead.trimmed⟩

/-- The printed line of a command that was read is trimmed. -/
theorem WasRead.trim_print
    {command : Command}
    (wasRead : command.WasRead) :
    Text.trim command.print = command.print := by
  obtain ⟨rule, reprints⟩ := wasRead.reprints
  exact Text.trim_eq_self.mpr reprints.trimmed

/-- A rule matches the printed line of a command that was read. -/
theorem WasRead.exists_matchLine?_print
    {command : Command}
    (wasRead : command.WasRead) :
    ∃ rule,
      Grammar.matchLine? command.print = some (rule, command.reading) := by
  obtain ⟨rule, reprints⟩ := wasRead.reprints
  refine ⟨rule, Grammar.matchLine?_eq_some.mpr ?_⟩
  exact (Grammar.read?_eq_some_iff reprints.trimmed).mpr reprints.derives

/-- The printed line of a command that was read is not blank. -/
theorem WasRead.print_ne_empty
    {command : Command}
    (wasRead : command.WasRead) :
    command.print ≠ "" := by
  obtain ⟨rule, found⟩ := wasRead.exists_matchLine?_print
  intro empty
  rw [empty] at found
  cases found

/-- The printed line of a command that was read is read as the command. -/
theorem WasRead.readLine_print
    {command : Command}
    (wasRead : command.WasRead)
    (source : String)
    (number : Nat) :
    (Script.readLine source number command.print).outcome =
      .ok (command.printedAt number) := by
  obtain ⟨rule, found⟩ := wasRead.exists_matchLine?_print
  exact (@Script.readLine_eq_ok source (number, command.print) _).mpr
    ⟨rfl, rfl, rule, found⟩

/-- A printed line has only the control characters of its command. -/
theorem Lacks.print
    {sign : Char}
    (control : sign.toNat < 32)
    {command : Command}
    (lacks : command.Lacks sign) :
    Text.Lacks sign command.print := by
  have argument :
      Text.Lacks sign (command.parameters.head?.getD "") := by
    cases shape : command.parameters with
    | nil =>
        exact List.not_mem_nil
    | cons first others =>
        exact lacks.parameters first (by simp [shape])
  have keyword := Kind.lacks_keyword control lacks.name
  have keyed :
      Text.Lacks sign
        (Grammar.keyedLine command.kind.keyword
          (command.parameters.head?.getD "")) := by
    unfold Grammar.keyedLine
    split
    · exact keyword
    · refine Text.lacks_append.mpr
        ⟨Text.lacks_append.mpr ⟨keyword, ?_⟩, argument⟩
      exact Text.lacks_ofList control rfl
  unfold Command.print Grammar.Reading.print Command.reading
  dsimp only
  split
  · exact Text.lacks_append.mpr ⟨Text.lacks_ofList control rfl, argument⟩
  all_goals first
    | exact keyed
    | exact keyword
    | exact Text.lacks_intercalate lacks.parameters
        (Text.lacks_ofList control rfl)

end Command

namespace Script

/-- The text that a script is printed as: a line for every command. -/
def print
    (script : Script) :
    String :=
  "\n".intercalate (script.commands.map Command.print)

/-- The second script is what the printed lines of the first one say. -/
structure Reprints
    (script again : Script) :
    Prop where
  readings :
    again.commands.map Command.reading = script.commands.map Command.reading
  lines :
    again.commands.map Command.line = List.range' 1 script.commands.length
  rawTexts :
    again.commands.map Command.rawText = script.commands.map Command.print
  print_eq : again.print = script.print

/-- Printed lines are read one after the other, none of them is skipped. -/
theorem readLines_print
    (source : String)
    (number : Nat)
    {commands : List Command}
    (wereRead : ∀ command ∈ commands, command.WasRead) :
    (readLines source number (commands.map Command.print)).outcome =
      .ok ((commands.zipIdx number).map fun (command, position) =>
        command.printedAt position) := by
  induction commands generalizing number with
  | nil =>
      rfl
  | cons command rest inductionHypothesis =>
      have wasRead := wereRead command List.mem_cons_self
      have continued :=
        inductionHypothesis (number + 1) fun other member =>
          wereRead other (List.mem_cons_of_mem command member)
      rw [List.map_cons, readLines_cons_outcome, wasRead.trim_print,
        if_neg wasRead.print_ne_empty, wasRead.readLine_print, continued]
      rfl

/-- The printed text of a script that was read is read, line by line. -/
theorem read_print
    {text source : String}
    {script : Script}
    (accepted : (read text source).outcome = .ok script)
    (other : String) :
    ∃ again,
      (read script.print other).outcome = .ok again ∧
        again.commands =
          (script.commands.zipIdx 1).map fun (command, position) =>
            command.printedAt position := by
  have wereRead := wasRead_of_read accepted
  have done := readLines_print other 1 wereRead
  have inLines :
      (readLines other 1 (Text.lines script.print)).outcome =
        .ok ((script.commands.zipIdx 1).map fun (command, position) =>
          command.printedAt position) := by
    by_cases empty : script.commands = []
    · rw [print, empty]
      rfl
    · rw [print, Text.lines_intercalate (by simpa using empty)]
      · exact done
      · rw [List.forall_mem_map]
        intro command member
        exact (lacks_of_read accepted member).print (by decide)
  rw [read_outcome, visibleLines, ← readLines_outcome, inLines]
  exact ⟨_, rfl, rfl⟩

/--
A script that was read can be printed and read again: every command keeps its
kind and its parameters, the lines are counted from one, and the texts of the
commands are the printed lines.  Printed once more it is the same text.
-/
theorem reprints_of_read
    {text source : String}
    {script : Script}
    (accepted : (read text source).outcome = .ok script)
    (other : String) :
    ∃ again,
      (read script.print other).outcome = .ok again ∧
        script.Reprints again := by
  obtain ⟨again, done, commands⟩ := read_print accepted other
  have sameView
      {Value : Type}
      {before after : Command → Value}
      (same :
        ∀ number command,
          after (command.printedAt number) = before command) :
      again.commands.map after = script.commands.map before := by
    rw [commands, List.map_map, ← List.zipIdx_map_fst 1 script.commands,
      List.map_map, List.zipIdx_map_fst]
    apply List.map_congr_left
    intro item _
    exact same item.2 item.1
  have samePrint :
      again.commands.map Command.print = script.commands.map Command.print :=
    sameView fun _ _ => rfl
  refine ⟨again, done, sameView fun _ _ => rfl, ?_,
    sameView fun _ _ => rfl, ?_⟩
  · rw [commands, List.map_map]
    exact List.zipIdx_map_snd 1 script.commands
  · rw [print, print, samePrint]

/-- A combination with a run of blanks, an attack mode and an empty text. -/
def careless :
    Script where
  commands :=
    [⟨.combination, 2, "Alt \t Del", ["Alt", "Del"]⟩,
      ⟨.attackMode, 3, "attackMode \tHid  storage", ["Hid  storage"]⟩,
      ⟨.text, 4, "String", [""]⟩]
  source := "keys.txt"
  totalLines := 4

/-- Blanks within an attack mode are kept, and those in a combination are not. -/
theorem reprints_of_read_careless :
    (read "\nAlt \t Del\n attackMode \tHid  storage\nString "
          "keys.txt").outcome =
        .ok careless ∧
      careless.print = "Alt Del\nATTACKMODE Hid  storage\nSTRING" ∧
      ∃ again,
        (read careless.print "again.txt").outcome = .ok again ∧
          careless.Reprints again := by
  have accepted :
      (read "\nAlt \t Del\n attackMode \tHid  storage\nString "
          "keys.txt").outcome =
        .ok careless :=
    rfl
  exact ⟨accepted, by decide, reprints_of_read accepted "again.txt"⟩

end Script

end Keystroke
