import Keystroke.Proofs.Performance

namespace Keystroke

/-!
# Literals read back as their texts

A text is escaped character by character, so that a reader of literals, who
takes the character after a backslash as it is and stops at the next bare quote,
finds the text again and stops where the literal was closed.  So no text can
leave the literal that it is written in, two texts never have the same literal,
and every statement that types or prints a text shows exactly that text.
-/

namespace Text

/-! ## Escaping and reading back -/

/-- Write a replacement in the place of every occurrence of a character. -/
def replaceEach
    (sign : Char)
    (replacement : List Char)
    (characters : List Char) :
    List Char :=
  characters.flatMap fun character =>
    if character = sign then replacement else [character]

/-- Escaping first doubles the backslashes and then marks the quotes. -/
theorem toList_escape
    (text : String) :
    (escape text).toList =
      replaceEach '"' ['\\', '"']
        (replaceEach '\\' ['\\', '\\'] text.toList) := by
  simp only [escape, String.toList_ofList, replaceEach, List.flatMap_assoc]
  refine List.flatMap_congr fun character _ => ?_
  by_cases backslash : character = '\\'
  · subst backslash
    decide
  · by_cases quote : character = '"' <;>
      simp [escapeCharacter, backslash, quote]

/-- A reader takes one escaped character for the character. -/
theorem scanLiteral?_escapeCharacter
    (character : Char)
    (rest : List Char) :
    scanLiteral? (escapeCharacter character ++ rest) =
      (scanLiteral? rest).map fun (text, after) =>
        (character :: text, after) := by
  by_cases special : character = '\\' ∨ character = '"'
  · simp [escapeCharacter, special, scanLiteral?]
  · obtain ⟨notBackslash, notQuote⟩ := not_or.mp special
    rw [escapeCharacter, if_neg special, List.singleton_append]
    -- The cases of a backslash overlap with this one, so they are ruled out.
    conv_lhs => unfold scanLiteral?
    split <;> simp_all

/-- A reader of escaped characters finds them and stops at the closing quote. -/
theorem scanLiteral?_escaped
    (characters after : List Char) :
    scanLiteral? (characters.flatMap escapeCharacter ++ '"' :: after) =
      some (characters, after) := by
  induction characters with
  | nil =>
      simp [scanLiteral?]
  | cons character rest inductionHypothesis =>
      rw [List.flatMap_cons, List.append_assoc, scanLiteral?_escapeCharacter,
        inductionHypothesis]
      rfl

/-- A reader of an escaped text finds it and stops at the closing quote. -/
theorem scanLiteral?_escape
    (text after : String) :
    scanLiteral? (escape text ++ "\"" ++ after).toList =
      some (text.toList, after.toList) := by
  have shape :
      (escape text ++ "\"" ++ after).toList =
        text.toList.flatMap escapeCharacter ++ '"' :: after.toList := by
    simp [escape]
  rw [shape, scanLiteral?_escaped]

/-- Two texts are not escaped alike. -/
theorem escape_injective :
    Function.Injective escape := by
  intro first second same
  have read := scanLiteral?_escape first ""
  rw [same, scanLiteral?_escape, Option.some.injEq, Prod.mk.injEq] at read
  exact String.toList_inj.mp read.1.symm

/-- The text of the first literal in a line, and what stands behind it. -/
def firstLiteral?
    (line : String) :
    Option (String × String) :=
  match line.toList.dropWhile (· ≠ '"') with
  | [] =>
      none
  | _ :: rest =>
      (scanLiteral? rest).map fun (text, after) =>
        (String.ofList text, String.ofList after)

/-- A literal after characters that are no quotes is the first one. -/
theorem firstLiteral?_literal
    {before : String}
    (noQuote : '"' ∉ before.toList)
    (text after : String) :
    firstLiteral? (before ++ literal text ++ after) = some (text, after) := by
  have passed :
      ∀ character ∈ before.toList, decide (character ≠ '"') = true := by
    intro character member
    have different : character ≠ '"' := by
      intro same
      exact noQuote (same ▸ member)
    exact decide_eq_true different
  have found :
      (before ++ literal text ++ after).toList.dropWhile (· ≠ '"') =
        '"' :: (escape text ++ "\"" ++ after).toList := by
    simp only [literal, String.toList_append, List.append_assoc]
    rw [List.dropWhile_append_of_pos passed]
    rfl
  simp only [firstLiteral?, found, scanLiteral?_escape, Option.map_some,
    String.ofList_toList]

end Text

/-! ## Statements that show a text -/

/-- How a call is closed in a family. -/
def Family.callEnd :
    Family → String
  | .circuitPython => ")"
  | .arduino => ");"

/--
Lines that show a text.  They have one statement, whose first literal reads as
the text, and right behind the literal the call is closed.
-/
def Family.ShowsText
    (family : Family)
    (text : String)
    (lines : List String) :
    Prop :=
  ∃ statement note,
    lines.filter (fun line => !family.isComment line) = [statement] ∧
      Text.firstLiteral? statement = some (text, family.callEnd ++ note)

/-- The text that an action types or prints. -/
def Action.text?
    {KeyType : Type} :
    Action KeyType → Option String
  | .typeText text | .print text => some text
  | _ => none

/-- The text of an action does not depend on the symbols of keys. -/
theorem Action.text?_mapKey
    {KeyType Symbol : Type}
    (symbol : KeyType → Symbol)
    (action : Action KeyType) :
    (action.mapKey symbol).text? = action.text? := by
  cases action <;> rfl

/-- An action with a text is a call with the text as a literal. -/
theorem Action.exists_call_of_text?
    {action : Action String}
    {text : String}
    (shown : action.text? = some text)
    (family : Family) :
    ∃ before,
      '"' ∉ before.toList ∧
        action.statements family =
          [before ++ Text.literal text ++ family.callEnd] := by
  cases action with
  | typeText value =>
      cases shown
      cases family with
      | circuitPython =>
          refine ⟨"keyboard_layout.write(", by decide, ?_⟩
          simp [statements, literal_between, Family.callEnd]
      | arduino =>
          refine ⟨"Keyboard.print(", by decide, ?_⟩
          simp [statements, literal_between, Family.callEnd]
  | print value =>
      cases shown
      cases family with
      | circuitPython =>
          refine ⟨"print(", by decide, ?_⟩
          simp [statements, literal_between, Family.callEnd]
      | arduino =>
          refine ⟨"Serial.println(", by decide, ?_⟩
          simp [statements, literal_between, Family.callEnd]
  | _ =>
      cases shown

/-- A step with a text is such a call, with its note behind it. -/
theorem Step.exists_call_of_text?
    {step : Step String}
    {text : String}
    (shown : step.action.text? = some text)
    (family : Family)
    (verbose : Bool) :
    ∃ before note,
      '"' ∉ before.toList ∧
        step.statements family verbose =
          [before ++ Text.literal text ++ (family.callEnd ++ note)] := by
  obtain ⟨before, noQuote, isCall⟩ := Action.exists_call_of_text? shown family
  unfold statements
  split
  · rename_i note isNote
    refine ⟨before, "  " ++ family.comment note, noQuote, ?_⟩
    simp [isCall, String.append_assoc]
  · exact ⟨before, "", noQuote, by simp [isCall]⟩

namespace Command

/-- The text that a command types or prints, as its statement shows it. -/
def shownText?
    (command : Command) :
    Option String :=
  match command.kind with
  | .text => command.firstParameter?
  | .log => command.firstParameter?.map fun message => "Log: " ++ message
  | .validate =>
      command.firstParameter?.map fun condition => "Validating: " ++ condition
  | _ => none

/-- A command that types or prints has a text to show in its parameter. -/
theorem exists_shownText?
    {command : Command}
    (kind : command.kind ∈ [.text, .log, .validate])
    (notEmpty : command.parameters ≠ []) :
    ∃ text, command.shownText? = some text := by
  obtain ⟨value, parameter⟩ := exists_firstParameter_iff.mpr notEmpty
  simp only [List.mem_cons, List.not_mem_nil, or_false] at kind
  rcases kind with kind | kind | kind
  · exact ⟨value, by simp [shownText?, kind, parameter]⟩
  · exact ⟨"Log: " ++ value, by simp [shownText?, kind, parameter]⟩
  · exact ⟨"Validating: " ++ value, by simp [shownText?, kind, parameter]⟩

/-- A command with a text to show has a plan of one step that shows it. -/
theorem exists_planned_of_shownText?
    {command : Command}
    {text : String}
    (shown : command.shownText? = some text)
    (pause : Text.Milliseconds) :
    ∃ plan step,
      Planned pause command plan ∧
        plan.steps = [step] ∧
        step.action.text? = some text ∧
        plan.allSteps.all fun step => step.action.key?.isNone := by
  unfold shownText? at shown
  split at shown
  · rename_i kind
    exact ⟨_, _, .text kind shown, rfl, rfl, rfl⟩
  · rename_i kind
    obtain ⟨message, parameter, rfl⟩ := Option.map_eq_some_iff.mp shown
    exact ⟨_, _, .log kind parameter, rfl, rfl, rfl⟩
  · rename_i kind
    obtain ⟨condition, parameter, rfl⟩ := Option.map_eq_some_iff.mp shown
    exact ⟨_, _, .validate kind parameter, rfl, rfl, rfl⟩
  · cases shown

end Command

namespace Stateless

/-- The lines of a command with a text to show are there and show it. -/
theorem exists_commandLines_of_shownText?
    {command : Command}
    {text : String}
    (shown : command.shownText? = some text)
    (device : Device)
    (pause : Text.Milliseconds)
    (verbose : Bool)
    (previous? : Option Command) :
    ∃ lines,
      commandLines device pause verbose previous? command = .ok lines ∧
        device.family.ShowsText text lines := by
  obtain ⟨plan, step, planned, isStep, stepText, noKeys⟩ :=
    Command.exists_planned_of_shownText? shown pause
  obtain ⟨resolved, done⟩ :
      Outcome.Succeeds (command.planFor device pause previous?) :=
    Command.succeeds_planFor.mpr
      ⟨plan, .inl planned, Command.usesOnly_of_no_keys noKeys _⟩
  refine ⟨(resolved.lines device.family verbose).map device.family.bodyLine,
    Outcome.map_eq_ok.mpr ⟨resolved, done, rfl⟩, ?_⟩
  have showsText :
      (step.mapKey device.symbol).action.text? = some text :=
    (Action.text?_mapKey device.symbol step.action).trans stepText
  obtain ⟨before, note, noQuote, isCall⟩ :=
    Step.exists_call_of_text? showsText device.family verbose
  have indented : '"' ∉ (device.family.indentation ++ before).toList := by
    have noIndentedQuote : '"' ∉ device.family.indentation.toList := by
      cases device.family <;> decide
    simp [noIndentedQuote, noQuote]
  have isStatement := Command.filter_planFor_lines done verbose
  rw [planned.command_deeds_eq, isStep, Deed.bodyStatements_once,
    List.map_singleton, List.flatMap_singleton, isCall,
    List.map_singleton] at isStatement
  refine ⟨device.family.indentation ++ before ++ Text.literal text ++
      (device.family.callEnd ++ note), note, ?_,
    Text.firstLiteral?_literal indented text _⟩
  rw [isStatement]
  simp only [String.append_assoc]

/-- A command that needs a text to show has no lines without one. -/
theorem commandLines_of_no_parameters
    {command : Command}
    (kind : command.kind ∈ [.text, .log, .validate])
    (noParameters : command.parameters = [])
    (device : Device)
    (pause : Text.Milliseconds)
    (verbose : Bool)
    (previous? : Option Command) :
    ∃ fault,
      commandLines device pause verbose previous? command = .error fault := by
  rw [← Outcome.not_succeeds, commandLines, Outcome.succeeds_map,
    Command.succeeds_planFor]
  rintro ⟨plan, planned | replayed, uses⟩
  · have fit := planned.encodable uses none
    have notEmpty : command.parameters ≠ [] := by
      simp only [List.mem_cons, List.not_mem_nil, or_false] at kind
      rcases kind with kind | kind | kind <;> rwa [kind] at fit
    exact notEmpty noParameters
  · cases replayed with
    | replay isReplay =>
        rw [isReplay] at kind
        simp at kind

/--
Literals read back as their texts.  Escaping is a replacement of all backslashes
and then of all quotes.  A reader of an escaped text finds the text and stops at
the quote behind it, whatever follows, so escaping is injective.  In both
families a command that types or prints a text has one statement, whose literal
reads as the text; it is refused if it has no parameter.
-/
theorem literals_read_back :
    (∀ text,
        (Text.escape text).toList =
          Text.replaceEach '"' ['\\', '"']
            (Text.replaceEach '\\' ['\\', '\\'] text.toList)) ∧
      (∀ text rest,
        Text.scanLiteral? (Text.escape text ++ "\"" ++ rest).toList =
          some (text.toList, rest.toList)) ∧
      Function.Injective Text.escape ∧
      ∀ (device : Device) (pause : Text.Milliseconds) (verbose : Bool)
        (previous? : Option Command) (command : Command),
        command.kind ∈ [.text, .log, .validate] →
        (∃ text lines,
          command.shownText? = some text ∧
            commandLines device pause verbose previous? command =
              .ok lines ∧
            device.family.ShowsText text lines) ∨
          command.parameters = [] ∧
            ∃ fault,
              commandLines device pause verbose previous? command =
                .error fault := by
  refine ⟨Text.toList_escape, Text.scanLiteral?_escape,
    Text.escape_injective, ?_⟩
  intro device pause verbose previous? command kind
  by_cases noParameters : command.parameters = []
  · exact .inr ⟨noParameters,
      commandLines_of_no_parameters kind noParameters device pause verbose
        previous?⟩
  · left
    obtain ⟨text, shown⟩ := Command.exists_shownText? kind noParameters
    obtain ⟨lines, written, shows⟩ :=
      exists_commandLines_of_shownText? shown device pause verbose previous?
    exact ⟨text, lines, shown, written, shows⟩

/-- A message that ends in a backslash is closed by its own quote. -/
theorem literals_read_back_backslash :
    ∃ lines,
      commandLines (.standard "teensy_4" "Teensy 4.0" .arduino) 5000 true none
            ⟨.log, 1, "LOG \"a\\", ["\"a\\"]⟩ =
          .ok lines ∧
        Family.arduino.ShowsText "Log: \"a\\" lines := by
  obtain ⟨_, _, _, showsAll⟩ := literals_read_back
  rcases showsAll (.standard "teensy_4" "Teensy 4.0" .arduino) 5000 true none
      ⟨.log, 1, "LOG \"a\\", ["\"a\\"]⟩ (by decide) with
    ⟨text, lines, shown, written, shows⟩ | ⟨noParameters, _⟩
  · cases shown
    exact ⟨lines, written, shows⟩
  · cases noParameters

end Stateless

end Keystroke
