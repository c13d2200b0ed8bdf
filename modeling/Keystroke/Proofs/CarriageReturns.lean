import Keystroke.Proofs.AcceptedScript
import Keystroke.Proofs.ProgramLines
import Keystroke.Proofs.Replaying

namespace Keystroke

/-!
# Carriage returns in a program

A text is cut into lines at its line feeds, so no line feed gets into a program.
A carriage return is blank: it is trimmed at the ends of a line, and it stays in
the middle of one.  From there it gets into a program in two ways, with the text
of a command that a verbose program echoes and with a parameter that is written
as it is.  A program for a script that was read has a carriage return exactly if
one of its commands brings one in.
-/

/-! ## Texts that keep a character -/

namespace Text

/-- The last character is not blank, so nothing is trimmed at the end. -/
def Ended
    (text : String) :
    Prop :=
  ∀ last, text.toList.getLast? = some last → isSpace last = false

/-- A text that ends visibly is left as it is by trimming its end. -/
theorem Ended.trimEnd_eq
    {text : String}
    (ended : Ended text) :
    trimEnd text = text := by
  have kept : text.toList.reverse.dropWhile isSpace = text.toList.reverse := by
    apply dropWhile_eq_self
    intro last isLast
    exact ended last (by rwa [List.head?_reverse] at isLast)
  rw [trimEnd, kept, List.reverse_reverse, String.ofList_toList]

/-- A fixed text ends visibly if its last character is not blank. -/
theorem ended_ofList
    {characters : List Char}
    (visible : characters.getLast?.all fun last => !isSpace last) :
    Ended (String.ofList characters) := by
  intro last isLast
  rw [String.toList_ofList] at isLast
  simpa [isLast] using visible

/-- A trimmed text ends visibly, wherever one starts to look at it. -/
theorem Trimmed.ended
    {before after : List Char}
    (trimmed : Trimmed (before ++ after)) :
    Ended (String.ofList after) := by
  intro last isLast
  rw [String.toList_ofList] at isLast
  exact trimmed.finish last (by simp [List.getLast?_append, isLast])

/-- More text in front of a text that is not empty leaves its end visible. -/
theorem Ended.append
    {text : String}
    (ended : Ended text)
    (visible : text ≠ "")
    (front : String) :
    Ended (front ++ text) := by
  intro last isLast
  rw [String.toList_append,
    List.getLast?_append_of_ne_nil _ (by simpa using visible)] at isLast
  exact ended last isLast

section Control

variable
  {sign : Char}
  (control : sign.toNat < 32)

include control

/-- A control character has no upper case of its own. -/
theorem toUpper_of_control :
    sign.toUpper = sign :=
  toUpper_of_not_lower (by omega)

/-- Upper case keeps the control characters. -/
theorem lacks_upper
    {text : String} :
    Lacks sign (upper text) ↔ Lacks sign text := by
  constructor
  · intro lacks member
    refine lacks ?_
    rw [toList_upper, ← toUpper_of_control control]
    exact List.mem_map_of_mem member
  · exact Lacks.upper control

/-- A literal keeps the control characters. -/
theorem lacks_literal
    {text : String} :
    Lacks sign (literal text) ↔ Lacks sign text := by
  constructor
  · intro lacks member
    obtain ⟨⟨_, inside⟩, _⟩ :=
      (lacks_append.trans (and_congr_left' lacks_append)).mp lacks
    refine inside ?_
    rw [escape, String.toList_ofList, List.mem_flatMap]
    refine ⟨sign, member, ?_⟩
    unfold escapeCharacter
    split <;> simp
  · exact Lacks.literal control

/-- A numeral has no control characters. -/
theorem Numeral.lacks
    {text : String}
    {value : Int}
    (numeral : Numeral text.toList value) :
    Lacks sign text := by
  have otherThan :
      ∀ character ∈ text.toList, character ≠ sign := by
    refine numeral.forall_mem ?_ ?_ ?_
    · rintro rfl
      exact absurd control (by decide)
    · rintro rfl
      exact absurd control (by decide)
    · rintro digit isDigit rfl
      have above : 48 ≤ digit.toNat := (Char.isDigit_iff_toNat.mp isDigit).1
      omega
  intro member
  exact otherThan sign member rfl

end Control

end Text

namespace Family

variable
  {sign : Char}
  (control : sign.toNat < 32)

include control

/-- A comment keeps the control characters of a text that ends visibly. -/
theorem lacks_comment_iff
    (family : Family)
    {text : String}
    (ended : Text.Ended text) :
    Text.Lacks sign (family.comment text) ↔ Text.Lacks sign text := by
  refine ⟨?_, family.lacks_comment control⟩
  intro lacks
  cases family with
  | circuitPython =>
      exact (Text.lacks_append.mp lacks).2
  | arduino =>
      simp only [comment, Arduino.comment, ended.trimEnd_eq] at lacks
      split at lacks
      · exact (Text.lacks_append.mp (Text.lacks_append.mp lacks).1).2
      · exact (Text.lacks_append.mp lacks).2

/-- A line of the body keeps the characters of its text. -/
theorem lacks_bodyLine_iff
    (family : Family)
    {line : CodeLine} :
    Text.Lacks sign (family.bodyLine line) ↔ Text.Lacks sign line.text := by
  refine ⟨?_, family.lacks_bodyLine control⟩
  intro lacks
  exact (Text.lacks_append.mp lacks).2

end Family

/-! ## What the rules leave in a parameter -/

namespace Grammar

/-- The kinds of command whose parameter may have blank characters in it. -/
def keepsBlanks :
    Kind → Bool
  | .delay | .text | .attackMode | .comment | .remark => true
  | _ => false

variable
  {sign : Char}
  (control : sign.toNat < 32)
  (isBlank : Text.isSpace sign)

/-- What follows a keyword on a trimmed line ends visibly. -/
theorem ended_of_afterKeyword?
    {keyword line rest : String}
    (trimmed : Text.Trimmed line.toList)
    (found : afterKeyword? keyword line = some rest) :
    Text.Ended rest := by
  obtain ⟨start, blanks, follows⟩ := afterKeyword?_eq_some.mp found
  rw [follows.shape] at trimmed
  simpa using trimmed.ended

include control isBlank

/--
A blank control character is in a parameter only if the parameter is the end of
the line, for the kinds that keep the end of the line as it is.
-/
theorem lacks_or_ended_of_read?
    {rule : Rule}
    {line : String}
    {reading : Reading}
    (trimmed : Text.Trimmed line.toList)
    (found : rule.read? line = some reading) :
    (∀ parameter ∈ reading.parameters, Text.Lacks sign parameter) ∨
      ∃ parameter,
        reading.parameters = [parameter] ∧
          keepsBlanks reading.kind ∧
          Text.Ended parameter := by
  cases rule with
  | combination =>
      left
      simp only [Rule.read?, combination?] at found
      split at found
      · rename_i first second others isWords
        split at found
        · cases found
          intro parameter member inside
          rw [← isWords] at member
          obtain ⟨piece, isWord, rfl⟩ := List.mem_map.mp member
          rw [String.toList_ofList] at inside
          have visible :=
            (Text.mem_of_mem_pieces (List.mem_filter.mp isWord).1 inside).2
          rw [isBlank] at visible
          cases visible
        · cases found
      · cases found
  | delay =>
      obtain ⟨value, argument, rfl⟩ := Option.map_eq_some_iff.mp found
      exact .inr ⟨value, rfl, rfl,
        ended_of_afterKeyword? trimmed (argument?_eq_some.mp argument).1⟩
  | text | remark =>
      obtain ⟨text, after, rfl⟩ := Option.map_eq_some_iff.mp found
      exact .inr ⟨text, rfl, rfl, ended_of_afterKeyword? trimmed after⟩
  | key =>
      obtain ⟨kind, _, rfl⟩ := Option.map_eq_some_iff.mp found
      exact .inl (List.forall_mem_nil _)
  | safeMode =>
      left
      simp only [Rule.read?, safeMode?] at found
      split at found
      · cases found
      · rename_i value argument
        split at found
        · rename_i switches
          cases found
          refine List.forall_mem_singleton.mpr ?_
          rw [← Text.lacks_upper control]
          rcases switches with isOn | isOff
          · rw [isOn]
            exact Text.lacks_ofList control rfl
          · rw [isOff]
            exact Text.lacks_ofList control rfl
        · cases found
  | attackMode =>
      simp only [Rule.read?, attackMode?] at found
      split at found
      · cases found
      · rename_i value argument
        split at found
        · cases found
          exact .inr ⟨value, rfl, rfl,
            ended_of_afterKeyword? trimmed (argument?_eq_some.mp argument).1⟩
        · cases found
  | comment =>
      simp only [Rule.read?, comment?] at found
      split at found
      · rename_i text shape
        cases found
        rw [shape] at trimmed
        have ended : Text.Ended (String.ofList text) :=
          @Text.Trimmed.ended ['#'] text trimmed
        exact .inr ⟨_, rfl, rfl, ended⟩
      · cases found

end Grammar

/-! ## What a command brings into its block -/

/-- The bare lines of a step lack what its lines lack, with a note or not. -/
theorem Step.lacks_actionLines_of_lines
    {sign : Char}
    {family : Family}
    {verbose : Bool}
    {step : Step String}
    (lacks : ∀ line ∈ step.lines family verbose, Text.Lacks sign line.text) :
    ∀ line ∈ family.actionLines step.action, Text.Lacks sign line.text := by
  unfold Step.lines at lacks
  split at lacks
  · rename_i note _
    intro line member
    have annotated := lacks _ (List.mem_map_of_mem member)
    exact (Text.lacks_append.mp (Text.lacks_append.mp annotated).1).1
  · exact lacks

namespace Command

section Lines

variable
  {sign : Char}
  (control : sign.toNat < 32)
  {plan : Plan KeyName}
  {symbol : KeyName → String}
  {family : Family}
  {verbose : Bool}
  (lacks :
    ∀ line ∈ (plan.mapKey symbol).lines family verbose,
      Text.Lacks sign line.text)

include control lacks

/-- The remarks of a plan lack what its lines lack. -/
theorem lacks_remark_of_lines
    {text : String}
    (isRemark : .remark text ∈ plan.entries)
    (ended : Text.Ended text) :
    Text.Lacks sign text := by
  refine (family.lacks_comment_iff control ended).mp ?_
  refine lacks (family.commentLine text) (List.mem_flatMap.mpr ?_)
  exact ⟨.remark text, List.mem_map_of_mem isRemark, List.mem_cons_self⟩

/-- The texts that a plan types lack what its lines lack. -/
theorem lacks_typeText_of_lines
    {text note : String}
    (isStep : .perform (.noted (.typeText text) note) ∈ plan.entries) :
    Text.Lacks sign text := by
  have bare :
      ∀ line ∈ family.actionLines (.typeText text),
        Text.Lacks sign line.text := by
    refine @Step.lacks_actionLines_of_lines sign family verbose
      ((Step.noted (.typeText text) note).mapKey symbol) ?_
    intro line member
    exact lacks line (List.mem_flatMap.mpr
      ⟨_, List.mem_map_of_mem isStep, member⟩)
  rw [← Text.lacks_literal control]
  cases family with
  | circuitPython | arduino =>
      have statement := bare _ List.mem_cons_self
      exact (Text.lacks_append.mp (Text.lacks_append.mp statement).1).2

end Lines

section Read

variable
  {sign : Char}
  (control : sign.toNat < 32)
  (isBlank : Text.isSpace sign)
  {command : Command}
  (wasRead : command.WasRead)

include control isBlank wasRead

/--
The lines of a command that was read lack a blank control character only if its
parameters do: what is not written as it is has no such character in it.
-/
theorem WasRead.lacks_parameters_of_lines
    {pause : Text.Milliseconds}
    {plan : Plan KeyName}
    (planned : Planned pause command plan)
    {symbol : KeyName → String}
    {family : Family}
    {verbose : Bool}
    (lacks :
      ∀ line ∈ (plan.mapKey symbol).lines family verbose,
        Text.Lacks sign line.text) :
    ∀ parameter ∈ command.parameters, Text.Lacks sign parameter := by
  obtain ⟨rule, found⟩ := wasRead.accepted
  rcases Grammar.lacks_or_ended_of_read? control isBlank wasRead.trimmed found
    with without | ⟨parameter, isOnly, keeps, ended⟩
  · exact without
  have isFirst : command.firstParameter? = some parameter := by
    rw [firstParameter?, show command.parameters = [parameter] from isOnly]
    rfl
  simp only at isOnly keeps
  rw [isOnly, List.forall_mem_singleton]
  -- Every plan but that of a delay or of a switch shows the parameter.
  cases planned with
  | delay kind first reads _ =>
      cases isFirst.symm.trans first
      have trimmed := wasRead.trim_of_delay kind first
      have numeral := (Text.integer?_eq_some.mp reads.reads).1
      rw [trimmed] at numeral
      exact numeral.lacks control
  | text _ first =>
      cases isFirst.symm.trans first
      exact lacks_typeText_of_lines control lacks List.mem_cons_self
  | attackModeOn _ first isWord | attackModeOff _ first isWord =>
      cases isFirst.symm.trans first
      rw [← Text.lacks_upper control, isWord]
      exact Text.lacks_ofList control rfl
  | attackModeKeyboard _ first | attackModeStorage _ first
  | attackModeOther _ first =>
      cases isFirst.symm.trans first
      have remark :=
        lacks_remark_of_lines control lacks List.mem_cons_self
          ((Text.ended_ofList rfl).append (by decide) _)
      rw [← Text.lacks_upper control]
      exact (Text.lacks_append.mp (Text.lacks_append.mp remark).1).2
  | comment =>
      have remark : Text.Lacks sign (command.firstParameter?.getD "") := by
        refine lacks_remark_of_lines control lacks List.mem_cons_self ?_
        rwa [isFirst]
      rwa [isFirst] at remark
  | key kind | combination kind | pause kind | safeModeOn kind
  | safeModeOff kind | defaultDelay kind | randomDelay kind | log kind
  | validate kind | branch kind | otherwise kind | endBranch kind
  | loop kind | endLoop kind | custom kind =>
      rw [kind] at keeps
      cases keeps

end Read

end Command

/--
What a command brings into its block lacks the character: its parameters, and
the text of the command if the block is verbose.
-/
structure Command.BringsNo
    (sign : Char)
    (verbose : Bool)
    (command : Command) :
    Prop where
  rawText : verbose → Text.Lacks sign command.rawText
  parameters : ∀ parameter ∈ command.parameters, Text.Lacks sign parameter

namespace Stateless

section Blocks

variable
  {sign : Char}
  (control : sign.toNat < 32)

include control

/-- The echo of a command lacks what the trimmed text of the command lacks. -/
theorem lacks_echoLines_iff
    (family : Family)
    (verbose : Bool)
    (index : Nat)
    {command : Command}
    (trimmed : Text.Trimmed command.rawText.toList) :
    (∀ line ∈ echoLines family verbose index command,
        Text.Lacks sign line) ↔
      (verbose → Text.Lacks sign command.rawText) := by
  cases verbose with
  | false =>
      simp [echoLines]
  | true =>
      simp only [echoLines, ↓reduceIte, List.forall_mem_singleton,
        forall_const]
      have front :
          Text.Lacks sign ("Command " ++ (index + 1).repr ++ ": ") := by
        simp (disch := decide) only [Text.lacks_append,
          Text.lacks_ofList control, Text.lacks_repr control, and_self]
      constructor
      · intro lacks
        by_cases isEmpty : command.rawText = ""
        · rw [isEmpty]
          exact Text.lacks_ofList control rfl
        · have ended : Text.Ended command.rawText := trimmed.finish
          have echoed :=
            (family.lacks_comment_iff control (ended.append isEmpty _)).mp
              (Text.lacks_append.mp lacks).2
          exact (Text.lacks_append.mp echoed).2
      · intro lacks
        exact family.lacks_indented control
          (family.lacks_comment control (Text.lacks_append.mpr ⟨front, lacks⟩))

/--
The block of a command that was read lacks a blank control character exactly if
the command brings none in.
-/
theorem lacks_block_iff
    (isBlank : Text.isSpace sign)
    {config : EncoderConfig}
    {device : Device}
    (symbols : device.vocabulary.Lacks sign)
    {commands : List Command}
    {index : Nat}
    {command : Command}
    (wasRead : command.WasRead)
    (readable : command.kind.isReadable)
    {lines : List String}
    (written : block config device commands index command = .ok lines) :
    (∀ line ∈ lines, Text.Lacks sign line) ↔
      command.BringsNo sign
        (safeModeAfter config (commands.take index)) := by
  obtain ⟨_, planFor, rfl⟩ := block_eq_ok.mp written
  have notReplay : command.kind ≠ .replay :=
    Kind.ne_of_isReadable readable rfl
  obtain ⟨plan, planned, _, rfl⟩ :=
    Command.exists_planned_of_planFor notReplay planFor
  simp only [List.forall_mem_append,
    lacks_echoLines_iff control _ _ _ wasRead.trimmed]
  constructor
  · rintro ⟨⟨⟨rawText, body⟩, _⟩, _⟩
    have bodyLacks :
        ∀ line ∈ (plan.mapKey device.symbol).lines device.family
            (safeModeAfter config (commands.take index)),
          Text.Lacks sign line.text := by
      intro line member
      exact (device.family.lacks_bodyLine_iff control).mp
        (body _ (List.mem_map_of_mem member))
    exact ⟨rawText,
      wasRead.lacks_parameters_of_lines control isBlank planned bodyLacks⟩
  · intro brings
    refine ⟨⟨⟨brings.rawText, ?_⟩, lacks_delayLines control _ _ _⟩,
      List.forall_mem_singleton.mpr (Text.lacks_ofList control rfl)⟩
    have planLacks : (plan.mapKey device.symbol).Lacks sign := by
      refine planned.lacks control symbols brings.parameters ?_
      intro name isCustom
      exact (Kind.ne_of_isReadable readable rfl isCustom).elim
    intro line member
    obtain ⟨bare, isBare, rfl⟩ := List.mem_map.mp member
    obtain ⟨entry, isEntry, inEntry⟩ := List.mem_flatMap.mp isBare
    exact device.family.lacks_bodyLine control
      (Entry.lacks_lines control _ _ (planLacks entry isEntry) bare inEntry)

end Blocks

/-- The lines that a program is made of: header, blocks and footer. -/
def entriesOf
    (config : EncoderConfig)
    (script : Script)
    (device : Device)
    (blocks : List (List String)) :
    List String :=
  device.family.header config.safeMode device.name script.summary
      config.startupDelay ++
    blocks.flatten ++
    device.family.footer (safeModeAfter config script.commands)

/-- The lines of a program are header, blocks and footer. -/
theorem encodeLines_outcome
    (config : EncoderConfig)
    (script : Script)
    (device : Device) :
    (Encoder.encodeLines config script device).outcome =
      (blocks config device script.commands).map
        (entriesOf config script device) := by
  have body := encodeCommands_outcome config device [] script.commands
  rw [List.length_nil, Context.after_nil] at body
  simp only [Encoder.encodeLines, Run.outcome_bind, Run.outcome_log,
    Run.outcome_pure]
  rw [body]
  change _ = (blocks config device script.commands).map _
  unfold blocks
  simp only [List.nil_append]
  cases (script.commands.zipIdx).mapM fun item =>
      block config device script.commands item.2 item.1 <;> rfl

end Stateless

namespace Script

/--
No line feed gets into a program for a script that was read on a device that is
always known.  A carriage return gets in exactly if one of its commands brings
one in, with a parameter or, where the program is verbose, with its text.
-/
theorem encodeLines_unbroken_iff
    {text source : String}
    {script : Script}
    (accepted : (read text source).outcome = .ok script)
    {device : Device}
    (isBuiltin : device ∈ Registry.builtin.items)
    (noLineFeed : Text.Lacks '\n' source)
    (noReturn : Text.Lacks '\r' source)
    {config : EncoderConfig}
    {entries : List String}
    (encoded :
      (Encoder.encodeLines config script device).outcome = .ok entries) :
    (∀ entry ∈ entries, Text.Lacks '\n' entry) ∧
      ((∀ entry ∈ entries, Text.Lacks '\r' entry) ↔
        ∀ (index : Nat) (command : Command),
          script.commands[index]? = some command →
          command.BringsNo '\r'
            (Stateless.safeModeAfter config
              (script.commands.take index))) := by
  rw [Stateless.encodeLines_outcome, Outcome.map_eq_ok] at encoded
  obtain ⟨written, made, rfl⟩ := encoded
  have isSource := (readsAll_of_read accepted).source_eq
  rw [← isSource] at noLineFeed noReturn
  have around
      {sign : Char}
      (control : sign.toNat < 32)
      (sourceLacks : Text.Lacks sign script.source) :
      (∀ entry ∈ Stateless.entriesOf config script device written,
          Text.Lacks sign entry) ↔
        ∀ entry ∈ written.flatten, Text.Lacks sign entry := by
    have nameLacks := (Registry.lacks_of_mem_builtin control isBuiltin).1
    simp only [Stateless.entriesOf, List.forall_mem_append]
    constructor
    · rintro ⟨⟨_, body⟩, _⟩
      exact body
    · intro body
      exact ⟨⟨device.family.lacks_header control _ nameLacks sourceLacks _,
          body⟩,
        device.family.lacks_footer control _⟩
  have lineFeed : '\n'.toNat < 32 := by decide
  have carriageReturn : '\r'.toNat < 32 := by decide
  rw [around lineFeed noLineFeed, around carriageReturn noReturn]
  refine ⟨?_, ?_⟩
  · exact Stateless.lacks_of_blocks lineFeed made
      (Registry.lacks_of_mem_builtin lineFeed isBuiltin).2
      fun _ member => lacks_of_read accepted member
  · have symbols :=
      (Registry.lacks_of_mem_builtin carriageReturn isBuiltin).2
    have blockIff
        {index : Nat}
        {command : Command}
        (atIndex : script.commands[index]? = some command)
        {lines : List String}
        (blockMade :
          Stateless.block config device script.commands index command =
            .ok lines) :=
      have member := List.mem_of_getElem? atIndex
      Stateless.lacks_block_iff carriageReturn (by decide) symbols
        (wasRead_of_read accepted command member)
        (isReadable_of_read accepted member) blockMade
    constructor
    · intro lacks index command atIndex
      obtain ⟨lines, isBlock, blockMade⟩ :=
        Stateless.exists_block_at made atIndex
      refine (blockIff atIndex blockMade).mp ?_
      intro line inBlock
      exact lacks line
        (List.mem_flatten.mpr ⟨lines, List.mem_of_getElem? isBlock, inBlock⟩)
    · intro brings line member
      obtain ⟨lines, isBlock, inBlock⟩ := List.mem_flatten.mp member
      obtain ⟨index, command, atIndex, blockMade⟩ :=
        Stateless.exists_index_of_mem_blocks made isBlock
      exact (blockIff atIndex blockMade).mpr (brings index command atIndex)
        line inBlock

/-- A combination and a remark with a carriage return in the middle. -/
def returning :
    Script where
  commands :=
    [⟨.combination, 1, "CTRL\rc", ["CTRL", "c"]⟩,
      ⟨.remark, 2, "REM a\rb", ["a\rb"]⟩]
  source := "keys.txt"
  totalLines := 2

/-- A remark brings its carriage return into a quiet program. -/
theorem encodeLines_unbroken_iff_returning :
    (read "CTRL\rc\nREM a\rb\r" "keys.txt").outcome = .ok returning ∧
      Device.standard "raspberry_pi_pico" "Raspberry Pi Pico" .circuitPython ∈
        Registry.builtin.items ∧
      ∃ entries,
        (Encoder.encodeLines { safeMode := false } returning
            (.standard "raspberry_pi_pico" "Raspberry Pi Pico"
              .circuitPython)).outcome =
          .ok entries ∧
          (∀ entry ∈ entries, Text.Lacks '\n' entry) ∧
          ∃ entry ∈ entries, '\r' ∈ entry.toList := by
  have accepted :
      (read "CTRL\rc\nREM a\rb\r" "keys.txt").outcome = .ok returning :=
    rfl
  have isBuiltin :
      Device.standard "raspberry_pi_pico" "Raspberry Pi Pico" .circuitPython ∈
        Registry.builtin.items :=
    List.mem_of_getElem? (i := 1) rfl
  have noBreak
      {sign : Char}
      (control : sign.toNat < 32) :
      Text.Lacks sign "keys.txt" :=
    Text.lacks_ofList control rfl
  have succeeds :
      Outcome.Succeeds
        (Encoder.encodeLines { safeMode := false } returning
          (.standard "raspberry_pi_pico" "Raspberry Pi Pico"
            .circuitPython)).outcome :=
    ⟨_, rfl⟩
  obtain ⟨entries, encoded⟩ := succeeds
  obtain ⟨noLineFeed, noReturn⟩ :=
    encodeLines_unbroken_iff accepted isBuiltin (noBreak (by decide))
      (noBreak (by decide)) encoded
  refine ⟨accepted, isBuiltin, entries, encoded, noLineFeed, ?_⟩
  by_contra none
  have lacks : ∀ entry ∈ entries, Text.Lacks '\r' entry := by
    intro entry member inside
    exact none ⟨entry, member, inside⟩
  have remark :=
    (noReturn.mp lacks 1 _ rfl).parameters "a\rb" List.mem_cons_self
  exact remark (by decide)

end Script

end Keystroke
