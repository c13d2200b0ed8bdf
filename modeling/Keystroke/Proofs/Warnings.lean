import Keystroke.Proofs.AcceptedScript
import Keystroke.Proofs.Layout
import Keystroke.Proofs.ProgramLines
import Keystroke.Proofs.Replaying

namespace Keystroke

/-!
# The warnings of a compilation

Advice about a script reads the values of delays with its own code and looks up
keys on its own, apart from the code that plans the commands.  On a script that
was read and encoded the two agree: the time that is warned of is the time that
the block of the delay waits for, and a device that is always known lacks
nothing that a text can ask for.  So the warnings are one for a text without a
visible line, then one for every long wait of a delay, then one for every long
text.
-/

/-- The time that an action waits for. -/
def Action.wait?
    {KeyType : Type} :
    Action KeyType → Option Text.Milliseconds
  | .wait duration => some duration
  | _ => none

namespace Command

/-- The time that a delay waits for, found among the steps of the command. -/
def delayedTime?
    (pause : Text.Milliseconds)
    (command : Command) :
    Option Text.Milliseconds :=
  if command.kind = .delay then
    (command.ownSteps pause).findSome? fun step => step.action.wait?
  else
    none

/-- The text of a command that types one. -/
def typedText?
    (command : Command) :
    Option String :=
  if command.kind = .text then
    command.firstParameter?
  else
    none

/-- The warning about a delay that waits for more than a minute. -/
def delayWarning?
    (pause : Text.Milliseconds)
    (command : Command) :
    Option String :=
  (command.delayedTime? pause).bind fun duration =>
    if 60000 < duration.toNat then
      some
        ("Line " ++ command.line.repr ++ ": Very long delay (" ++
          duration.toNat.repr ++ "ms) - this might be an error")
    else
      none

/-- The warning about a text of more than a thousand characters. -/
def textWarning?
    (command : Command) :
    Option String :=
  command.typedText?.bind fun text =>
    if 1000 < text.length then
      some
        ("Line " ++ command.line.repr ++ ": Very long string (" ++
          text.length.repr ++ " chars) may cause timing issues")
    else
      none

end Command

/-! ## Advice about one command -/

/-- A delay has one step, which waits for the duration of its parameter. -/
theorem Command.Planned.ownSteps_delay
    {pause : Text.Milliseconds}
    {command : Command}
    {plan : Plan KeyName}
    (planned : Command.Planned pause command plan)
    (kind : command.kind = .delay) :
    ∃ value number time,
      command.firstParameter? = some value ∧
        Command.ReadsAsDuration value number ∧
        time = UInt64.ofNat number.toNat ∧
        command.ownSteps pause =
          [.noted (.wait time)
            ("Delay for " ++ Text.wordNumeral time ++ "ms")] := by
  have direct := planned.directPlan
  simp only [Command.directPlan, kind, Command.delayPlan, Outcome.bind_eq_ok,
    Command.duration_eq_ok] at direct
  obtain ⟨time, ⟨value, number, parameter, reads, isTime⟩, isPlan⟩ := direct
  cases isPlan
  exact ⟨value, number, time, parameter, reads, isTime, planned.ownSteps_eq⟩

/--
The advice about a delay with a trimmed value is about the time it waits for: it
does not matter there that only planning trims the value.
-/
theorem Script.commandAdvice?_eq
    {pause : Text.Milliseconds}
    {command : Command}
    {plan : Plan KeyName}
    (trimmed :
      ∀ {value}, command.kind = .delay →
        command.firstParameter? = some value → Text.trim value = value)
    (planned : Command.Planned pause command plan) :
    commandAdvice? command = command.delayWarning? pause := by
  unfold commandAdvice? Command.delayWarning? Command.delayedTime?
  by_cases kind : command.kind = .delay
  · obtain ⟨value, number, time, parameter, reads, isTime, steps⟩ :=
      planned.ownSteps_delay kind
    have sameNumber : number = (time.toNat : Int) := by
      rw [isTime, UInt64.toNat_ofNat_of_lt' reads.toNat_lt]
      exact (Int.toNat_of_nonneg reads.notNegative).symm
    have readUntrimmed : Text.integer? value = some number := by
      rw [← trimmed kind parameter]
      exact reads.reads
    have sameBound : number > longDelay ↔ 60000 < time.toNat := by
      rw [sameNumber, longDelay]
      omega
    have sameNumeral : number.repr = time.toNat.repr := by
      rw [sameNumber]
      rfl
    simp only [kind, ↓reduceIte, parameter, Option.bind_some, readUntrimmed,
      sameBound, sameNumeral, steps, Step.noted, List.findSome?_cons,
      Action.wait?]
  · simp [kind]

namespace Device

/-- The advice about the length of a text is the warning about it. -/
theorem lengthAdvice_eq
    (command : Command) :
    lengthAdvice command = command.textWarning?.toList := by
  unfold lengthAdvice Command.textWarning? Command.typedText?
  by_cases kind : command.kind = .text
  · cases parameter : command.firstParameter? with
    | none =>
        simp [kind]
    | some text =>
        simp only [kind, ↓reduceIte, Option.bind_some, longText]
        by_cases isLong : 1000 < text.length <;> simp [isLong]
  · simp [kind]

/-- A device that is always known lacks nothing that a text can ask for. -/
theorem supportAdvice_eq_nil
    {device : Device}
    (isBuiltin : device ∈ Registry.builtin.items)
    {command : Command}
    (readable : command.kind.isReadable) :
    device.supportAdvice command = [] := by
  have lacksNothing : device.lacks command.kind = false := by
    cases kind : command.kind with
    | key key =>
        have known := Registry.knows_of_mem_builtin isBuiltin key
        rw [Knows, Vocabulary.symbol?, Option.isSome_map] at known
        simp [lacks, Roster.contains, known]
    | branch | otherwise | endBranch | loop | endLoop | custom name =>
        rw [kind] at readable
        cases readable
    | _ =>
        rfl
  rw [supportAdvice, lacksNothing]
  rfl

end Device

/-! ## What the blocks of delays wait for -/

namespace Stateless

/-- Without a command that sets a default delay there is none. -/
theorem delayAfter_eq_zero
    {earlier : List Command}
    (noneSets : ∀ command ∈ earlier, command.defaultDelay? = none) :
    delayAfter earlier = 0 := by
  have noneFound :
      earlier.reverse.findSome? Command.defaultDelay? = none := by
    rw [List.findSome?_eq_none_iff]
    intro command member
    exact noneSets command (List.mem_reverse.mp member)
  rw [delayAfter, Command.latest, noneFound]
  rfl

section Blocks

variable
  {config : EncoderConfig}
  {device : Device}
  {commands : List Command}

/-- A command that repeats nothing has a plan in the list if it has a block. -/
theorem exists_planned_of_block
    {index : Nat}
    {command : Command}
    {lines : List String}
    (notReplay : command.kind ≠ .replay)
    (made : block config device commands index command = .ok lines) :
    ∃ plan, Command.Planned config.pause command plan := by
  obtain ⟨_, planned, _⟩ := block_eq_ok.mp made
  obtain ⟨named, isPlanned, _⟩ :=
    Command.exists_planned_of_planFor notReplay planned
  exact ⟨named, isPlanned⟩

/-- Without a default delay, all that the block of a delay does is its wait. -/
theorem filter_block_delay
    {index : Nat}
    {command : Command}
    {lines : List String}
    (kind : command.kind = .delay)
    (noDefault : delayAfter (commands.take index) = 0)
    (made : block config device commands index command = .ok lines) :
    ∃ duration,
      command.delayedTime? config.pause = some duration ∧
        lines.filter (fun text => !device.family.isComment text) =
          [device.family.indentation ++
              (if safeModeAfter config (commands.take index) then
                device.family.wait duration ++ "  " ++
                  device.family.comment
                    ("Delay for " ++ Text.wordNumeral duration ++ "ms")
              else
                device.family.wait duration),
            ""] := by
  obtain ⟨plan, planned⟩ :=
    exists_planned_of_block (by rw [kind]; simp) made
  obtain ⟨_, _, duration, _, _, _, steps⟩ := planned.ownSteps_delay kind
  have time : command.delayedTime? config.pause = some duration := by
    simp [Command.delayedTime?, kind, steps, Step.noted, Action.wait?]
  have waits :
      Action.statements device.family (.wait duration) =
        [device.family.wait duration] := by
    cases device.family <;> rfl
  have deeds :
      deedsAt config.pause commands index command =
        [.noted (.wait duration)
          ("Delay for " ++ Text.wordNumeral duration ++ "ms")].map .once := by
    rw [deedsAt, noDefault, planned.command_deeds_eq, ← planned.ownSteps_eq,
      steps]
    rfl
  refine ⟨duration, time, ?_⟩
  rw [filter_block made, deeds, Deed.bodyStatements_once]
  cases safeModeAfter config (commands.take index) <;>
    simp [Step.mapKey, Step.noted, Action.mapKey, Step.statements, waits]

end Blocks

end Stateless

/-! ## Scripts that were read -/

namespace Script

section Read

variable
  {text source : String}
  {script : Script}
  (accepted : (read text source).outcome = .ok script)

include accepted

/-- A script that was read is empty if every line of its text is blank. -/
theorem isEmpty_iff_of_read :
    script.isEmpty ↔ ∀ line ∈ Text.lines text, Text.trim line = "" := by
  have count := (readsAll_of_read accepted).totalCommands_eq
  rw [isEmpty, List.isEmpty_iff_length_eq_zero]
  change script.totalCommands = 0 ↔ _
  rw [count, List.length_eq_zero_iff, contents, List.filter_eq_nil_iff]
  simp

/-- A script that was read repeats nothing and sets no default delay. -/
theorem plain_of_read
    {command : Command}
    (member : command ∈ script.commands) :
    command.kind ≠ .replay ∧ command.defaultDelay? = none := by
  have readable := isReadable_of_read accepted member
  refine ⟨Kind.ne_of_isReadable readable rfl, ?_⟩
  unfold Command.defaultDelay?
  split
  · rename_i kind
    exact (Kind.ne_of_isReadable readable rfl kind).elim
  · rfl

variable
  {device : Device}
  {config : EncoderConfig}
  {blocks : List (List String)}
  (made : Stateless.blocks config device script.commands = .ok blocks)

include made

/-- The advice about a script is about what its program does. -/
theorem advice_of_read
    (isBuiltin : device ∈ Registry.builtin.items) :
    script.advice ++ device.advice script =
      (if ∀ line ∈ Text.lines text, Text.trim line = "" then
          ["Script contains no commands"]
        else
          []) ++
        script.commands.filterMap (Command.delayWarning? config.pause) ++
        script.commands.filterMap Command.textWarning? := by
  have delays :
      script.commands.filterMap commandAdvice? =
        script.commands.filterMap (Command.delayWarning? config.pause) := by
    refine List.filterMap_congr fun command member => ?_
    obtain ⟨index, atIndex⟩ := List.mem_iff_getElem?.mp member
    obtain ⟨_, _, blockMade⟩ := Stateless.exists_block_at made atIndex
    obtain ⟨_, planned⟩ :=
      Stateless.exists_planned_of_block (plain_of_read accepted member).1
        blockMade
    exact commandAdvice?_eq
      (wasRead_of_read accepted command member).trim_of_delay planned
  have texts :
      device.advice script =
        script.commands.filterMap Command.textWarning? := by
    rw [Device.advice, List.filterMap_eq_flatMap_toList]
    refine List.flatMap_congr fun command member => ?_
    rw [Device.supportAdvice_eq_nil isBuiltin
      (isReadable_of_read accepted member), Device.lengthAdvice_eq]
    rfl
  rw [advice, delays, texts]
  simp only [isEmpty_iff_of_read accepted]

end Read

end Script

namespace Compilation

/--
A compilation that warns of what its program does.  The program is made of one
block for every visible line of the text, and the block of a delay waits for one
time.  The warnings are one if no line of the text is visible, one for every
delay that waits for more than a minute, and one for every text of more than a
thousand characters, each with the line of its command.
-/
structure WarnsOf
    (text source : String)
    (device : Device)
    (config : EncoderConfig)
    (compilation : Compilation)
    (script : Script)
    (blocks : List (List String)) :
    Prop where
  readsAll : Script.ReadsAll text source script
  made : Stateless.blocks config device script.commands = .ok blocks
  code_eq :
    compilation.code = Stateless.programOf config script device blocks
  waits :
    ∀ index command,
      script.commands[index]? = some command →
      command.kind = .delay →
      ∃ lines duration,
        blocks[index]? = some lines ∧
          command.delayedTime? config.pause = some duration ∧
          lines.filter (fun line => !device.family.isComment line) =
            [device.family.indentation ++
                (if Stateless.safeModeAfter config
                    (script.commands.take index) then
                  device.family.wait duration ++ "  " ++
                    device.family.comment
                      ("Delay for " ++ Text.wordNumeral duration ++ "ms")
                else
                  device.family.wait duration),
              ""]
  warnings_eq :
    compilation.warnings =
      (if ∀ line ∈ Text.lines text, Text.trim line = "" then
          ["Script contains no commands"]
        else
          []) ++
        script.commands.filterMap (Command.delayWarning? config.pause) ++
        script.commands.filterMap Command.textWarning?

/-- Every compilation for a device that is always known warns exactly. -/
theorem compile_warns_exactly
    {text source : String}
    {device : Device}
    (isBuiltin : device ∈ Registry.builtin.items)
    {config : EncoderConfig}
    {compilation : Compilation}
    (compiled :
      (compile text source device config).outcome = .ok compilation) :
    ∃ script blocks,
      WarnsOf text source device config compilation script blocks := by
  obtain ⟨script, accepted, encoded, isAdvice⟩ := compile_eq_ok.mp compiled
  obtain ⟨blocks, made, isProgram⟩ :=
    Stateless.exists_blocks_of_encode encoded
  refine ⟨script, blocks, Script.readsAll_of_read accepted, made, isProgram,
    ?_, isAdvice.trans (Script.advice_of_read accepted made isBuiltin)⟩
  intro index command atIndex kind
  obtain ⟨lines, isBlock, blockMade⟩ := Stateless.exists_block_at made atIndex
  have noDefault :
      Stateless.delayAfter (script.commands.take index) = 0 := by
    refine Stateless.delayAfter_eq_zero fun earlier member => ?_
    exact (Script.plain_of_read accepted (List.mem_of_mem_take member)).2
  obtain ⟨duration, time, statements⟩ :=
    Stateless.filter_block_delay kind noDefault blockMade
  exact ⟨lines, duration, isBlock, time, statements⟩

/-- A minute is not too long, and one millisecond more is warned of. -/
theorem compile_warns_exactly_minute :
    ∃ compilation,
      (compile "DELAY 60000\n\nDELAY +060001" "keys.txt"
            (.standard "teensy_4" "Teensy 4.0" .arduino) {}).outcome =
          .ok compilation ∧
        compilation.warnings =
          ["Line 3: Very long delay (60001ms) - this might be an error"] ∧
        ∃ script blocks,
          WarnsOf "DELAY 60000\n\nDELAY +060001" "keys.txt"
            (.standard "teensy_4" "Teensy 4.0" .arduino) {} compilation
            script blocks :=
  ⟨_, rfl, by decide,
    compile_warns_exactly (List.mem_of_getElem? (i := 3) rfl) rfl⟩

end Compilation

end Keystroke
