import Keystroke.Proofs.LineBreaks
import Keystroke.Proofs.LineMatching
import Keystroke.Proofs.Reading

namespace Keystroke

/-!
# The lines of a program

Every entry that a program is made of is one line of its text, unless a control
character comes in with a text of the script, a symbol or a name.  None comes in
with a script that was read, nor with a device that is always known, so these
programs have exactly the lines they are made of.
-/

/-! ## The lines of actions, steps and plans -/

/-- The text of a comment as a line is the comment. -/
theorem Family.text_commentLine
    (family : Family)
    (text : String) :
    (family.commentLine text).text = family.comment text :=
  rfl

/-- What holds of a line and is kept by indentation holds in the body. -/
theorem Family.bodyLine_induction
    {Holds : String → Prop}
    (family : Family)
    (indented : ∀ text, Holds text → Holds (family.indentation ++ text))
    {line : CodeLine}
    (holds : Holds line.text) :
    Holds (family.bodyLine line) := by
  have atDepth
      (depth : Nat) :
      Holds
        (String.join (List.replicate depth family.indentation) ++
          line.text) := by
    induction depth with
    | zero =>
        simpa using holds
    | succ depth inductionHypothesis =>
        rw [List.replicate_succ, String.join_cons, String.append_assoc]
        exact indented _ inductionHypothesis
  exact atDepth (line.depth + 1)

/-- Some notes stand in a program only if it is verbose. -/
theorem forall_mem_of_verbose
    {Holds : String → Prop}
    {notes : List String}
    (holds : ∀ line ∈ notes, Holds line)
    (verbose : Bool) :
    ∀ line ∈ (if verbose then notes else []), Holds line := by
  cases verbose with
  | false =>
      exact List.forall_mem_nil Holds
  | true =>
      exact holds

section Writing

variable
  {sign : Char}
  (control : sign.toNat < 32)

include control

/-- A comment lacks what its text lacks. -/
theorem Family.lacks_comment
    (family : Family)
    {text : String}
    (lacks : Text.Lacks sign text) :
    Text.Lacks sign (family.comment text) := by
  cases family with
  | circuitPython =>
      exact Text.lacks_append.mpr ⟨Text.lacks_ofList control rfl, lacks⟩
  | arduino =>
      simp only [comment, Arduino.comment]
      split
      · simp (disch := decide) only [Text.lacks_append,
          Text.lacks_ofList control, lacks.trimEnd, and_self]
      · exact Text.lacks_append.mpr ⟨Text.lacks_ofList control rfl, lacks⟩

/-- The statement that waits for a time is printed. -/
theorem Family.lacks_wait
    (family : Family)
    (duration : Text.Milliseconds) :
    Text.Lacks sign (family.wait duration) := by
  cases family with
  | circuitPython =>
      simp (disch := decide) only [wait, CircuitPython.wait,
        Text.lacks_append, Text.lacks_ofList control,
        Text.lacks_seconds control, and_self]
  | arduino =>
      simp (disch := decide) only [wait, Arduino.wait,
        Text.lacks_append, Text.lacks_ofList control,
        Text.lacks_wordNumeral control, and_self]

/-- The lines of an action lack what its texts lack. -/
theorem Family.lacks_actionLines
    (family : Family)
    {action : Action String}
    (lacks : action.Lacks sign) :
    ∀ line ∈ family.actionLines action, Text.Lacks sign line.text := by
  cases action with
  | wait duration =>
      rw [actionLines_wait]
      exact List.forall_mem_singleton.mpr
        (family.lacks_wait control duration)
  | typeText text | print text =>
      have literal := Text.Lacks.literal control lacks
      cases family <;>
        simp (disch := decide) [actionLines, CircuitPython.actionLines,
          Arduino.actionLines, CodeLine.statement, Text.lacks_append,
          Text.lacks_ofList control, literal]
  | press symbol | release symbol =>
      have symbolLacks : Text.Lacks sign symbol := lacks
      cases family <;>
        simp (disch := decide) [actionLines, CircuitPython.actionLines,
          Arduino.actionLines, CodeLine.statement, Text.lacks_append,
          Text.lacks_ofList control, symbolLacks]
  | branchAlways condition | loopOnce condition =>
      have conditionLacks : Text.Lacks sign condition := lacks
      cases family <;>
        simp (disch := decide) [actionLines, CircuitPython.actionLines,
          Arduino.actionLines, CodeLine.statement, CodeLine.comment,
          CodeLine.nested, Text.lacks_append, Text.lacks_ofList control,
          conditionLacks]
  | recordSafeMode enabled =>
      cases family <;> cases enabled <;>
        simp (disch := decide) [actionLines, CircuitPython.actionLines,
          Arduino.actionLines, Arduino.truth, CodeLine.statement,
          Text.lacks_ofList control]
  | waitBetween least most | idle =>
      cases family <;>
        simp (disch := decide) [actionLines, CircuitPython.actionLines,
          Arduino.actionLines, CodeLine.statement, Text.lacks_append,
          Text.lacks_ofList control, Text.lacks_seconds control,
          Text.lacks_wordNumeral control]

/-- The lines of a step lack what its texts lack. -/
theorem Step.lacks_lines
    (family : Family)
    (verbose : Bool)
    {step : Step String}
    (lacks : step.Lacks sign) :
    ∀ line ∈ step.lines family verbose, Text.Lacks sign line.text := by
  have bare := family.lacks_actionLines control lacks.1
  intro line member
  unfold Step.lines at member
  split at member
  · rename_i note isNote
    obtain ⟨plain, isPlain, rfl⟩ := List.mem_map.mp member
    exact Text.lacks_append.mpr
      ⟨Text.lacks_append.mpr
          ⟨bare plain isPlain, Text.lacks_ofList control rfl⟩,
        family.lacks_comment control (lacks.2 note isNote)⟩
  · exact bare line member

/-- The lines around a loop are printed. -/
theorem Family.lacks_loopLines
    (family : Family)
    (count : UInt64) :
    ∀ line ∈
        CodeLine.statement (family.loopStart count) ::
          family.loopEnd?.toList.map CodeLine.statement,
      Text.Lacks sign line.text := by
  have start : Text.Lacks sign (family.loopStart count) := by
    cases family with
    | circuitPython | arduino =>
        exact Text.lacks_append.mpr
          ⟨Text.lacks_append.mpr
              ⟨Text.lacks_ofList control rfl,
                Text.lacks_wordNumeral control count⟩,
            Text.lacks_ofList control rfl⟩
  refine List.forall_mem_cons.mpr ⟨start, ?_⟩
  cases family with
  | circuitPython =>
      exact List.forall_mem_nil _
  | arduino =>
      exact List.forall_mem_singleton.mpr (Text.lacks_ofList control rfl)

/-- The lines of an entry lack what its texts lack. -/
theorem Entry.lacks_lines
    (family : Family)
    (verbose : Bool)
    {entry : Entry String}
    (lacks : entry.Lacks sign) :
    ∀ line ∈ entry.lines family verbose, Text.Lacks sign line.text := by
  refine Entry.forall_lines ?_ ?_ ?_ fun _ lineLacks => lineLacks
  · intro text isText
    refine family.lacks_comment control ?_
    cases entry <;> cases isText <;> exact lacks
  · intro step isStep
    refine Step.lacks_lines control family verbose ?_
    cases entry with
    | perform performed =>
        rw [List.mem_singleton.mp isStep]
        exact lacks
    | loop count steps =>
        exact lacks step isStep
    | remark text | aside text =>
        cases isStep
  · intro count
    exact family.lacks_loopLines control count

/-- An indented text lacks what the text lacks. -/
theorem Family.lacks_indented
    (family : Family)
    {text : String}
    (lacks : Text.Lacks sign text) :
    Text.Lacks sign (family.indentation ++ text) := by
  refine Text.lacks_append.mpr ⟨?_, lacks⟩
  cases family <;> exact Text.lacks_ofList control rfl

/-- A line of the body lacks what its text lacks. -/
theorem Family.lacks_bodyLine
    (family : Family)
    {line : CodeLine}
    (lacks : Text.Lacks sign line.text) :
    Text.Lacks sign (family.bodyLine line) :=
  family.bodyLine_induction
    (fun _ deeper => family.lacks_indented control deeper) lacks

/-- The notes on what a program is lack what the given names lack. -/
theorem CodeNotes.lacks_opening
    {name library : String}
    (nameLacks : Text.Lacks sign name)
    (libraryLacks : Text.Lacks sign library) :
    ∀ line ∈ opening name library, Text.Lacks sign line := by
  simp (disch := decide) [opening, Text.lacks_append,
    Text.lacks_ofList control, nameLacks, libraryLacks]

/-- The notes on where a program comes from lack what the source lacks. -/
theorem CodeNotes.lacks_information
    (family : Family)
    {summary : Script.Summary}
    (sourceLacks : Text.Lacks sign summary.source) :
    ∀ line ∈ information family.comment summary, Text.Lacks sign line := by
  have titled
      {title text : String}
      (titleLacks : Text.Lacks sign title)
      (textLacks : Text.Lacks sign text) :
      Text.Lacks sign (family.comment (title ++ text)) :=
    family.lacks_comment control
      (Text.lacks_append.mpr ⟨titleLacks, textLacks⟩)
  have numbered
      (number : Nat) :
      Text.Lacks sign number.repr :=
    Text.lacks_repr control number
  rw [information, List.forall_mem_cons, List.forall_mem_cons,
    List.forall_mem_cons, List.forall_mem_singleton]
  refine ⟨family.lacks_comment control ?_, titled ?_ sourceLacks,
    titled ?_ (numbered _), titled ?_ (numbered _)⟩ <;>
    exact Text.lacks_ofList control rfl

/-- The lines before the first command lack what the given names lack. -/
theorem Family.lacks_header
    (family : Family)
    (verbose : Bool)
    {name : String}
    (nameLacks : Text.Lacks sign name)
    {summary : Script.Summary}
    (sourceLacks : Text.Lacks sign summary.source)
    (startupDelay : Text.Milliseconds) :
    ∀ line ∈ family.header verbose name summary startupDelay,
      Text.Lacks sign line := by
  have information :=
    CodeNotes.lacks_information control family sourceLacks
  have wait :=
    family.lacks_indented control (family.lacks_wait control startupDelay)
  have opening
      {library : String}
      (libraryLacks : Text.Lacks sign library) :=
    forall_mem_of_verbose
      (CodeNotes.lacks_opening control nameLacks libraryLacks) verbose
  cases family with
  | circuitPython =>
      simp only [header, CircuitPython.header, List.forall_mem_append]
      have notes :
          ∀ line ∈
              ["# The computer sees this board as an ordinary USB keyboard and",
                  "# receives its keystrokes like those of a physical one.",
                  ""] ++
                CodeNotes.information CircuitPython.comment summary ++
                ["", "# Main execution loop"],
            Text.Lacks sign line := by
        simp only [List.forall_mem_append]
        refine ⟨⟨?_, information⟩, ?_⟩ <;>
          simp (disch := decide) [Text.lacks_ofList control]
      refine ⟨⟨⟨⟨⟨⟨?_, opening ?_⟩, ?_⟩,
        forall_mem_of_verbose notes verbose⟩, ?_⟩,
        forall_mem_of_verbose ?_ verbose⟩,
        List.forall_mem_cons.mpr ⟨wait, ?_⟩⟩ <;>
        simp (disch := decide) [Text.lacks_ofList control]
  | arduino =>
      simp only [header, Arduino.header, List.forall_mem_append]
      have notes :
          ∀ line ∈ CodeNotes.information Arduino.comment summary ++ [""],
            Text.Lacks sign line := by
        refine List.forall_mem_append.mpr ⟨information, ?_⟩
        simp (disch := decide) [Text.lacks_ofList control]
      have declared :
          Text.Lacks sign ("bool safeMode = " ++ Arduino.truth verbose ++
            ";") := by
        cases verbose <;>
          simp (disch := decide) [Arduino.truth,
            Text.lacks_ofList control]
      refine ⟨⟨⟨⟨⟨⟨⟨⟨?_, opening ?_⟩, ?_⟩,
        forall_mem_of_verbose notes verbose⟩, ?_⟩,
        forall_mem_of_verbose ?_ verbose⟩, ?_⟩,
        forall_mem_of_verbose ?_ verbose⟩,
        List.forall_mem_cons.mpr ⟨wait, ?_⟩⟩ <;>
        simp (disch := decide) [Text.lacks_ofList control, declared]

/-- The lines after the last command are printed. -/
theorem Family.lacks_footer
    (family : Family)
    (verbose : Bool) :
    ∀ line ∈ family.footer verbose, Text.Lacks sign line := by
  cases family <;> cases verbose <;>
    simp (disch := decide) [footer, CircuitPython.footer, Arduino.footer,
      CodeNotes.closing, Text.lacks_ofList control]

end Writing

/-! ## The lines of all blocks -/

namespace Stateless

section Blocks

variable
  {sign : Char}
  (control : sign.toNat < 32)

include control

/-- The wait after a command is printed. -/
theorem lacks_delayLines
    (family : Family)
    (delay : Text.Milliseconds)
    (command : Command) :
    ∀ line ∈ delayLines family delay command, Text.Lacks sign line := by
  intro line member
  unfold delayLines at member
  split at member
  · rw [List.mem_singleton.mp member]
    exact family.lacks_indented control (family.lacks_wait control delay)
  · cases member

/-- A block lacks what the vocabulary and the commands so far lack. -/
theorem lacks_of_block
    {config : EncoderConfig}
    {device : Device}
    {commands : List Command}
    {index : Nat}
    {command : Command}
    {lines : List String}
    (written : block config device commands index command = .ok lines)
    (symbols : device.vocabulary.Lacks sign)
    (lacks : command.Lacks sign)
    (commandsLack : ∀ other ∈ commands, other.Lacks sign) :
    ∀ line ∈ lines, Text.Lacks sign line := by
  obtain ⟨plan, planned, rfl⟩ := block_eq_ok.mp written
  have planLacks : plan.Lacks sign := by
    refine Command.lacks_of_planFor control planned symbols lacks ?_
    intro previous isPrevious
    exact commandsLack previous
      (List.mem_of_mem_take (List.mem_of_getLast? isPrevious))
  simp only [List.forall_mem_append]
  refine ⟨⟨⟨?_, ?_⟩, ?_⟩, ?_⟩
  · unfold echoLines
    refine forall_mem_of_verbose (List.forall_mem_singleton.mpr ?_) _
    refine device.family.lacks_indented control
      (device.family.lacks_comment control ?_)
    simp (disch := decide) only [Text.lacks_append,
      Text.lacks_ofList control, Text.lacks_repr control, lacks.rawText,
      and_self]
  · intro line member
    obtain ⟨bare, isBare, rfl⟩ := List.mem_map.mp member
    obtain ⟨entry, isEntry, inEntry⟩ := List.mem_flatMap.mp isBare
    exact device.family.lacks_bodyLine control
      (Entry.lacks_lines control _ _ (planLacks entry isEntry) bare inEntry)
  · exact lacks_delayLines control _ _ _
  · exact List.forall_mem_singleton.mpr (Text.lacks_ofList control rfl)

/-- The blocks lack what the vocabulary and the commands lack. -/
theorem lacks_of_blocks
    {config : EncoderConfig}
    {device : Device}
    {commands : List Command}
    {written : List (List String)}
    (done : blocks config device commands = .ok written)
    (symbols : device.vocabulary.Lacks sign)
    (lacks : ∀ command ∈ commands, command.Lacks sign) :
    ∀ line ∈ written.flatten, Text.Lacks sign line := by
  intro line member
  obtain ⟨lines, isBlock, inBlock⟩ := List.mem_flatten.mp member
  obtain ⟨index, command, isCommand, blockMade⟩ :=
    exists_command_of_mem_blocks done isBlock
  exact lacks_of_block control blockMade symbols (lacks command isCommand)
    lacks line inBlock

end Blocks

/-- A program whose entries have no line feed has these lines. -/
theorem lines_programOf
    {config : EncoderConfig}
    {script : Script}
    {device : Device}
    {written : List (List String)}
    (nameLacks : Text.Lacks '\n' device.name)
    (sourceLacks : Text.Lacks '\n' script.source)
    (bodyLacks : ∀ line ∈ written.flatten, Text.Lacks '\n' line) :
    Text.lines (programOf config script device written) =
      device.family.header config.safeMode device.name script.summary
            config.startupDelay ++
          written.flatten ++
          device.family.footer (safeModeAfter config script.commands) ++
        [""] := by
  have control : '\n'.toNat < 32 := by decide
  refine Encoder.lines_programText ?_ ?_
  · cases device.family <;> simp [Family.header, CircuitPython.header, Arduino.header]
  · simp only [List.forall_mem_append]
    exact ⟨⟨device.family.lacks_header control _ nameLacks sourceLacks _,
        bodyLacks⟩,
      device.family.lacks_footer control _⟩

end Stateless

/-! ## Devices that are always known -/

section Builtin

variable
  {sign : Char}
  (control : sign.toNat < 32)

include control

/-- The standard symbols are printed. -/
theorem Vocabulary.lacks_standard
    (family : Family) :
    (standard family).Lacks sign := by
  intro item member
  obtain ⟨key, _, rfl⟩ := List.mem_map.mp (Roster.mem_of_mem_ofList member)
  cases key with
  | function index =>
      cases family <;>
        exact Text.lacks_append.mpr
          ⟨Text.lacks_ofList control rfl, Text.lacks_repr control _⟩
  | modifier held =>
      cases family <;> cases held <;> exact Text.lacks_ofList control rfl
  | _ =>
      cases family <;> exact Text.lacks_ofList control rfl

/-- The devices that are always known have printed names and symbols. -/
theorem Registry.lacks_of_mem_builtin
    {device : Device}
    (member : device ∈ builtin.items) :
    Text.Lacks sign device.name ∧ device.vocabulary.Lacks sign := by
  have listed := Roster.mem_of_mem_ofList member
  simp only [List.mem_cons, List.not_mem_nil, or_false] at listed
  rcases listed with rfl | rfl | rfl | rfl | rfl <;>
    exact ⟨Text.lacks_ofList control rfl, Vocabulary.lacks_standard control _⟩

end Builtin

/-! ## Scripts that were read -/

/-- The kinds of command that a line of a text can have. -/
def Kind.isReadable :
    Kind → Bool
  | .key _ | .delay | .text | .combination | .pause | .safeMode
  | .attackMode | .comment | .remark => true
  | _ => false

/-- A readable kind is none of the others. -/
theorem Kind.ne_of_isReadable
    {kind other : Kind}
    (readable : kind.isReadable)
    (unreadable : other.isReadable = false) :
    kind ≠ other := by
  rintro rfl
  rw [unreadable] at readable
  cases readable

namespace Grammar

/-- A reading of a line: a readable kind, and parameters out of the line. -/
structure TakenFrom
    (line : String)
    (reading : Reading) :
    Prop where
  kind : reading.kind.isReadable
  parameters :
    ∀ parameter ∈ reading.parameters, parameter.toList ⊆ line.toList

/-- What follows a keyword is taken from the line. -/
theorem subset_of_afterKeyword?
    {keyword line rest : String}
    (found : afterKeyword? keyword line = some rest) :
    rest.toList ⊆ line.toList := by
  obtain ⟨start, blanks, follows⟩ := afterKeyword?_eq_some.mp found
  rw [follows.shape]
  exact List.subset_append_right _ _

/-- A word of a line is taken from the line. -/
theorem subset_of_mem_words
    {line word : String}
    (member : word ∈ Text.words line) :
    word.toList ⊆ line.toList := by
  obtain ⟨piece, isWord, rfl⟩ := List.mem_map.mp member
  rw [String.toList_ofList]
  intro character inPiece
  exact (Text.mem_of_mem_pieces (List.mem_filter.mp isWord).1 inPiece).1

/-- Every rule takes what it reads from the line. -/
theorem takenFrom_of_read?
    {rule : Rule}
    {line : String}
    {reading : Reading}
    (found : rule.read? line = some reading) :
    TakenFrom line reading := by
  cases rule with
  | combination =>
      simp only [Rule.read?, combination?] at found
      split at found
      · rename_i first second others isWords
        split at found
        · cases found
          refine ⟨rfl, ?_⟩
          intro parameter member
          rw [← isWords] at member
          exact subset_of_mem_words member
        · cases found
      · cases found
  | text | remark =>
      obtain ⟨text, after, rfl⟩ := Option.map_eq_some_iff.mp found
      exact ⟨rfl, List.forall_mem_singleton.mpr
        (subset_of_afterKeyword? after)⟩
  | delay =>
      obtain ⟨value, argument, rfl⟩ := Option.map_eq_some_iff.mp found
      exact ⟨rfl, List.forall_mem_singleton.mpr
        (subset_of_afterKeyword? (argument?_eq_some.mp argument).1)⟩
  | key =>
      obtain ⟨kind, isKind, rfl⟩ := Option.map_eq_some_iff.mp found
      refine ⟨?_, List.forall_mem_nil _⟩
      unfold Kind.ofSingleWord? at isKind
      split at isKind
      · cases isKind
        rfl
      · split at isKind
        · cases isKind
          rfl
        · cases isKind
  | safeMode =>
      simp only [Rule.read?, safeMode?] at found
      split at found
      · cases found
      · rename_i value argument
        split at found
        · cases found
          exact ⟨rfl, List.forall_mem_singleton.mpr
            (subset_of_afterKeyword? (argument?_eq_some.mp argument).1)⟩
        · cases found
  | attackMode =>
      simp only [Rule.read?, attackMode?] at found
      split at found
      · cases found
      · rename_i value argument
        split at found
        · cases found
          exact ⟨rfl, List.forall_mem_singleton.mpr
            (subset_of_afterKeyword? (argument?_eq_some.mp argument).1)⟩
        · cases found
  | comment =>
      simp only [Rule.read?, comment?] at found
      split at found
      · rename_i any shape
        cases found
        refine ⟨rfl, List.forall_mem_singleton.mpr ?_⟩
        rw [shape, String.toList_ofList]
        exact List.subset_cons_self _ _
      · cases found

end Grammar

namespace Script

section Read

variable
  {text source : String}
  {script : Script}
  (accepted : (read text source).outcome = .ok script)

include accepted

/-- Every command of a script that was read is taken from its own text. -/
theorem takenFrom_of_read
    {command : Command}
    (member : command ∈ script.commands) :
    Grammar.TakenFrom command.rawText
        ⟨command.kind, command.parameters⟩ ∧
      command.rawText ∈ contents text := by
  obtain ⟨item, isItem, readAt⟩ :=
    Outcome.exists_of_mem_results (readsAll_of_read accepted).commands member
  obtain ⟨rule, found⟩ := readAt.accepted
  rw [readAt.rawText, ← map_snd_visibleLines]
  exact ⟨Grammar.takenFrom_of_read? (Grammar.read?_of_matchLine? found),
    List.mem_map_of_mem isItem⟩

/-- The kinds of a script that was read are readable. -/
theorem isReadable_of_read
    {command : Command}
    (member : command ∈ script.commands) :
    command.kind.isReadable :=
  (takenFrom_of_read accepted member).1.kind

/-- No command of a script that was read has a line feed in its texts. -/
theorem lacks_of_read
    {command : Command}
    (member : command ∈ script.commands) :
    command.Lacks '\n' := by
  obtain ⟨taken, isContent⟩ := takenFrom_of_read accepted member
  have rawText : Text.Lacks '\n' command.rawText := by
    obtain ⟨trimmed, _⟩ := List.mem_filter.mp isContent
    obtain ⟨line, isLine, same⟩ := List.mem_map.mp trimmed
    rw [← same]
    exact Text.Lacks.trim (Text.not_mem_of_mem_lines isLine)
  refine ⟨rawText, ?_, ?_⟩
  · intro parameter isParameter
    exact rawText.of_subset (taken.parameters parameter isParameter)
  · intro name isCustom
    exact (Kind.ne_of_isReadable taken.kind rfl isCustom).elim

/--
A program for a script that was read, on a device that is always known, has
exactly the lines it is made of.
-/
theorem exists_blocks_lines_of_read
    {device : Device}
    (isBuiltin : device ∈ Registry.builtin.items)
    (sourceLacks : Text.Lacks '\n' source)
    {config : EncoderConfig}
    {code : String}
    (encoded : (Encoder.encode config script device).outcome = .ok code) :
    ∃ written,
      Stateless.blocks config device script.commands = .ok written ∧
        Text.lines code =
          device.family.header config.safeMode device.name script.summary
                config.startupDelay ++
              written.flatten ++
              device.family.footer
                (Stateless.safeModeAfter config script.commands) ++
            [""] := by
  have control : '\n'.toNat < 32 := by decide
  obtain ⟨nameLacks, symbols⟩ :=
    Registry.lacks_of_mem_builtin control isBuiltin
  obtain ⟨written, made, rfl⟩ := Stateless.exists_blocks_of_encode encoded
  rw [← (readsAll_of_read accepted).source_eq] at sourceLacks
  exact ⟨written, made,
    Stateless.lines_programOf nameLacks sourceLacks
      (Stateless.lacks_of_blocks control made symbols fun _ member =>
        lacks_of_read accepted member)⟩

end Read

end Script

end Keystroke
