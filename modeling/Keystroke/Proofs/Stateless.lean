import Keystroke.Encoder
import Keystroke.Proofs.Settings

namespace Keystroke

/-!
# Programs without a running state

Encoding carries a context from command to command.  Here a program is defined
without one: every block looks back at the commands before it for the safe mode
and the default delay that hold at its command, and the blocks are then joined.
The two definitions give the same program for every script.
-/

namespace Family

/-- The statement that waits for a time. -/
def wait :
    Family → Text.Milliseconds → String
  | .circuitPython => CircuitPython.wait
  | .arduino => Arduino.wait

/-- A line as it stands in the body of a program. -/
def bodyLine
    (family : Family)
    (line : CodeLine) :
    String :=
  line.nested.render family.indentation

/-- A comment stands in the body with one indentation. -/
theorem bodyLine_comment
    (family : Family)
    (text : String) :
    family.bodyLine (.comment text) = family.indentation ++ text := by
  simp [bodyLine, CodeLine.comment, CodeLine.nested, CodeLine.render]

/-- A statement stands in the body with one indentation. -/
theorem bodyLine_statement
    (family : Family)
    (text : String) :
    family.bodyLine (.statement text) = family.indentation ++ text := by
  simp [bodyLine, CodeLine.statement, CodeLine.nested, CodeLine.render]

/-- Waiting is one statement in every family. -/
theorem actionLines_wait
    (family : Family)
    (duration : Text.Milliseconds) :
    family.actionLines (.wait duration) =
      [.statement (family.wait duration)] := by
  cases family <;> rfl

end Family

namespace Stateless

/--
The lines of a command in the body of a program.  They depend on the target, on
how verbose the program is there, on the command and on the command before it.
-/
def commandLines
    (device : Device)
    (pause : Text.Milliseconds)
    (verbose : Bool)
    (previous? : Option Command)
    (command : Command) :
    Except EncodeFault (List String) :=
  (command.planFor device pause previous?).map fun plan =>
    (plan.lines device.family verbose).map device.family.bodyLine

/-- The comment that repeats a command, in a verbose program. -/
def echoLines
    (family : Family)
    (verbose : Bool)
    (index : Nat)
    (command : Command) :
    List String :=
  if verbose then
    [family.indentation ++
      family.comment
        ("Command " ++ (index + 1).repr ++ ": " ++ command.rawText)]
  else
    []

/-- The wait after a command that is no comment and sets no delay itself. -/
def delayLines
    (family : Family)
    (delay : Text.Milliseconds)
    (command : Command) :
    List String :=
  if 0 < delay ∧
      command.kind ∉ [.comment, .remark, .defaultDelay] then
    [family.indentation ++ family.wait delay]
  else
    []

/-- The safe mode that holds after some commands. -/
def safeModeAfter
    (config : EncoderConfig)
    (earlier : List Command) :
    Bool :=
  Command.latest Command.switch? config.safeMode earlier

/-- The default delay that holds after some commands. -/
def delayAfter
    (earlier : List Command) :
    Text.Milliseconds :=
  Command.latest Command.defaultDelay? 0 earlier

/-- The block of the command that stands at an index among all commands. -/
def block
    (config : EncoderConfig)
    (device : Device)
    (commands : List Command)
    (index : Nat)
    (command : Command) :
    Except EncodeFault (List String) :=
  let earlier := commands.take index
  let verbose := safeModeAfter config earlier
  (commandLines device config.pause verbose earlier.getLast? command).map
    fun body =>
      echoLines device.family verbose index command ++
        body ++
        delayLines device.family (delayAfter earlier) command ++
        [""]

/-- The blocks of all commands; the first command without one decides. -/
def blocks
    (config : EncoderConfig)
    (device : Device)
    (commands : List Command) :
    Except EncodeFault (List (List String)) :=
  commands.zipIdx.mapM fun item =>
    block config device commands item.2 item.1

/--
The program that is made of the given blocks.  The lines of the header, of the
blocks and of the footer are joined by line feeds, and the last one is closed by
a line feed as well.
-/
def programOf
    (config : EncoderConfig)
    (script : Script)
    (device : Device)
    (blocks : List (List String)) :
    String :=
  "\n".intercalate
      (device.family.header config.safeMode device.name script.summary
          config.startupDelay ++
        blocks.flatten ++
        device.family.footer (safeModeAfter config script.commands)) ++
    "\n"

/-- The program for a script, block by block. -/
def program
    (config : EncoderConfig)
    (script : Script)
    (device : Device) :
    Except Failure String :=
  ((blocks config device script.commands).map
      (programOf config script device)).mapError
    fun fault => .encode fault.message

/-- The echo of a command looks at the safe mode of its context only. -/
theorem echo_lines
    (family : Family)
    (context : Context)
    (index : Nat)
    (command : Command) :
    (Encoder.echo family context (index + 1) command).map family.bodyLine =
      echoLines family context.safeMode index command := by
  unfold Encoder.echo echoLines
  split
  · simp [Family.commentLine, Family.bodyLine_comment]
  · rfl

/--
The wait after a command is that of the delay before it: a command that sets
another delay is not followed by a wait.
-/
theorem trailingDelay_lines
    (family : Family)
    (context : Context)
    (command : Command) :
    (Encoder.trailingDelay family (context.apply command.setting)
        command).map family.bodyLine =
      delayLines family context.defaultDelay command := by
  by_cases setsDelay : command.kind = .defaultDelay
  · simp [Encoder.trailingDelay, delayLines, Command.takesDefaultDelay,
      setsDelay]
  · have sameDelay :
        (context.apply command.setting).defaultDelay =
          context.defaultDelay := by
      have noDelay : command.defaultDelay? = none := by
        unfold Command.defaultDelay?
        split
        · contradiction
        · rfl
      unfold Command.setting
      rw [noDelay]
      cases command.switch? <;> rfl
    have takes :
        command.takesDefaultDelay ↔
          command.kind ∉ [.comment, .remark, .defaultDelay] := by
      cases kind : command.kind <;>
        simp [Command.takesDefaultDelay, Kind.isComment, kind]
    unfold Encoder.trailingDelay delayLines
    rw [sameDelay]
    simp only [Bool.and_eq_true, decide_eq_true_eq, takes, gt_iff_lt]
    split
    · simp [Family.actionLines_wait, Family.bodyLine_statement]
    · rfl

/-- A block has a fault exactly if its command has no plan. -/
theorem block_eq_error
    {config : EncoderConfig}
    {device : Device}
    {commands : List Command}
    {index : Nat}
    {command : Command}
    {fault : EncodeFault} :
    block config device commands index command = .error fault ↔
      command.planFor device config.pause (commands.take index).getLast? =
        .error fault := by
  simp only [block, commandLines]
  cases command.planFor device config.pause
      (commands.take index).getLast? with
  | error found =>
      simp [Except.map]
  | ok plan =>
      simp [Except.map]

/-- A block is an echo, the lines of a plan, a wait and an empty line. -/
theorem block_eq_ok
    {config : EncoderConfig}
    {device : Device}
    {commands : List Command}
    {index : Nat}
    {command : Command}
    {lines : List String} :
    block config device commands index command = .ok lines ↔
      ∃ plan,
        command.planFor device config.pause (commands.take index).getLast? =
            .ok plan ∧
          lines =
            echoLines device.family
                (safeModeAfter config (commands.take index)) index command ++
              (plan.lines device.family
                (safeModeAfter config (commands.take index))).map
                  device.family.bodyLine ++
              delayLines device.family (delayAfter (commands.take index))
                command ++
              [""] := by
  simp only [block, commandLines, Outcome.map_eq_ok]
  constructor
  · rintro ⟨_, ⟨plan, planned, rfl⟩, shape⟩
    exact ⟨plan, planned, shape.symm⟩
  · rintro ⟨plan, planned, shape⟩
    exact ⟨_, ⟨plan, planned, rfl⟩, shape.symm⟩

/-- Every command has a block of its own, in the order of the commands. -/
theorem exists_block_at
    {config : EncoderConfig}
    {device : Device}
    {commands : List Command}
    {written : List (List String)}
    (done : blocks config device commands = .ok written)
    {index : Nat}
    {command : Command}
    (atIndex : commands[index]? = some command) :
    ∃ lines,
      written[index]? = some lines ∧
        block config device commands index command = .ok lines := by
  have itemAtIndex : commands.zipIdx[index]? = some (command, index) := by
    simp [List.getElem?_zipIdx, atIndex]
  exact Outcome.exists_result_at (Outcome.mapM_eq_ok.mp done) itemAtIndex

/-- Every block is that of the command at its index. -/
theorem exists_index_of_mem_blocks
    {config : EncoderConfig}
    {device : Device}
    {commands : List Command}
    {written : List (List String)}
    (done : blocks config device commands = .ok written)
    {lines : List String}
    (member : lines ∈ written) :
    ∃ index command,
      commands[index]? = some command ∧
        block config device commands index command = .ok lines := by
  obtain ⟨item, isItem, blockMade⟩ :=
    Outcome.exists_of_mem_results (Outcome.mapM_eq_ok.mp done) member
  exact ⟨item.2, item.1, List.mem_zipIdx_iff_getElem?.mp isItem, blockMade⟩

/-- Every block is that of one of the commands. -/
theorem exists_command_of_mem_blocks
    {config : EncoderConfig}
    {device : Device}
    {commands : List Command}
    {written : List (List String)}
    (done : blocks config device commands = .ok written)
    {lines : List String}
    (member : lines ∈ written) :
    ∃ index, ∃ command ∈ commands,
      block config device commands index command = .ok lines := by
  obtain ⟨index, command, atIndex, blockMade⟩ :=
    exists_index_of_mem_blocks done member
  exact ⟨index, command, List.mem_of_getElem? atIndex, blockMade⟩

/-- There are as many blocks as commands. -/
theorem length_blocks
    {config : EncoderConfig}
    {device : Device}
    {commands : List Command}
    {written : List (List String)}
    (done : blocks config device commands = .ok written) :
    written.length = commands.length := by
  have sameLength := (Outcome.mapM_eq_ok.mp done).length_eq
  rw [List.length_zipIdx] at sameLength
  exact sameLength.symm

/-- A block of a run is an echo, the lines of a plan, a wait and a blank. -/
theorem encoderBlock_eq
    (family : Family)
    (context : Context)
    (position : Nat)
    (command : Command)
    (plan : Plan String) :
    Encoder.block family context position command plan =
      (Encoder.echo family context position command).map family.bodyLine ++
        (plan.lines family context.safeMode).map family.bodyLine ++
        (Encoder.trailingDelay family (context.apply plan.change)
          command).map family.bodyLine ++
        [""] := by
  rw [← List.map_append, ← List.map_append]
  rfl

/-- The block of a command is the one that a run writes in its context. -/
theorem block_eq_encoderBlock
    (config : EncoderConfig)
    (device : Device)
    (earlier later : List Command)
    (command : Command) :
    block config device (earlier ++ command :: later) earlier.length command =
      (command.planFor device config.pause earlier.getLast?).map
        (Encoder.block device.family (.after config.safeMode earlier)
          (earlier.length + 1) command) := by
  have before :
      (earlier ++ command :: later).take earlier.length = earlier := by
    simp
  simp only [block, commandLines, before]
  cases planned :
      command.planFor device config.pause earlier.getLast? with
  | error fault =>
      rfl
  | ok plan =>
      simp only [Except.map, encoderBlock_eq, echo_lines,
        Command.planFor_change planned, trailingDelay_lines]
      rfl

/-- One step of a run: plan a command, write its block and go on. -/
theorem encodeCommands_cons_outcome
    (config : EncoderConfig)
    (device : Device)
    (position : Nat)
    (context : Context)
    (command : Command)
    (rest : List Command) :
    (Encoder.encodeCommands config device position context
        (command :: rest)).outcome =
      command.planFor device config.pause context.previous? >>= fun plan =>
        (Encoder.encodeCommands config device (position + 1)
            ((context.apply plan.change).withPrevious command)
            rest).outcome.map fun (lines, final) =>
          (Encoder.block device.family context position command plan ++ lines,
            final) := by
  simp only [Encoder.encodeCommands, Run.outcome_bind, Run.outcome_log,
    Run.outcome_ofExcept, Run.outcome_write, Run.outcome_map]
  rfl

/--
The loop invariant of encoding.  After some earlier commands the context is the
one that is read off them, and the lines of the remaining commands are those of
their blocks.
-/
theorem encodeCommands_outcome
    (config : EncoderConfig)
    (device : Device)
    (earlier rest : List Command) :
    (Encoder.encodeCommands config device (earlier.length + 1)
        (.after config.safeMode earlier) rest).outcome =
      ((rest.zipIdx earlier.length).mapM fun item =>
          block config device (earlier ++ rest) item.2 item.1).map
        fun written : List (List String) =>
          (written.flatten, .after config.safeMode (earlier ++ rest)) := by
  induction rest generalizing earlier with
  | nil =>
      simp [Encoder.encodeCommands, pure, Except.pure, Except.map]
  | cons command rest inductionHypothesis =>
      have regroup :
          earlier ++ command :: rest = (earlier ++ [command]) ++ rest := by
        simp
      have continued := inductionHypothesis (earlier ++ [command])
      rw [List.length_append, List.length_singleton, ← regroup] at continued
      rw [encodeCommands_cons_outcome, List.zipIdx_cons, List.mapM_cons,
        block_eq_encoderBlock]
      change
        command.planFor device config.pause earlier.getLast? >>= _ = _
      cases planned :
          command.planFor device config.pause earlier.getLast? with
      | error fault =>
          rfl
      | ok plan =>
          have nextContext :
              ((Context.after config.safeMode earlier).apply
                  plan.change).withPrevious command =
                .after config.safeMode (earlier ++ [command]) := by
            rw [Command.planFor_change planned,
              Context.after_append_singleton]
          simp only [Except.map, bind, Except.bind, nextContext, continued]
          cases (rest.zipIdx (earlier.length + 1)).mapM fun item =>
              block config device (earlier ++ command :: rest) item.2
                item.1 with
          | error fault =>
              rfl
          | ok written =>
              simp [pure, Except.pure]

/-- The outcome of encoding is the program that is made of the blocks. -/
theorem encode_outcome
    (config : EncoderConfig)
    (script : Script)
    (device : Device) :
    (Encoder.encode config script device).outcome =
      program config script device := by
  have body :
      (Encoder.encodeCommands config device 1 (.initial config.safeMode)
          script.commands).outcome =
        (blocks config device script.commands).map fun written =>
          (written.flatten, .after config.safeMode script.commands) := by
    rw [← Context.after_nil]
    exact encodeCommands_outcome config device [] script.commands
  simp only [Encoder.encode, Run.outcome_mapFault, Run.outcome_map,
    Encoder.encodeLines, Run.outcome_bind, Run.outcome_log,
    Run.outcome_pure, body, program]
  cases blocks config device script.commands with
  | error fault =>
      rfl
  | ok written =>
      rfl

/-- The lines of a command other than a repetition look at no other command. -/
theorem commandLines_of_ne_replay
    (device : Device)
    (pause : Text.Milliseconds)
    (verbose : Bool)
    (previous? other? : Option Command)
    {command : Command}
    (kind : command.kind ≠ .replay) :
    commandLines device pause verbose previous? command =
      commandLines device pause verbose other? command := by
  simp [commandLines, Command.planFor, Command.plan,
    Command.performed_of_ne_replay, kind]

/-- A repetition leaves the safe mode and the default delay as they are. -/
theorem after_replay
    (config : EncoderConfig)
    (earlier : List Command)
    {command : Command}
    (kind : command.kind = .replay) :
    safeModeAfter config (earlier ++ [command]) =
        safeModeAfter config earlier ∧
      delayAfter (earlier ++ [command]) = delayAfter earlier := by
  obtain ⟨noSwitch, noDelay⟩ := Command.setting_replay kind
  simp [safeModeAfter, delayAfter, Command.latest_append_singleton,
    noSwitch, noDelay]

/--
Encoding is stateless.  Its outcome is the header, the blocks of the commands
and the footer, where every block looks back for the safe mode and the default
delay at its command.  Only a repetition also looks at the command before it,
and a repetition sets neither the safe mode nor the default delay.
-/
theorem encode_eq_stateless_program
    (config : EncoderConfig)
    (script : Script)
    (device : Device) :
    (Encoder.encode config script device).outcome =
        program config script device ∧
      (∀ verbose previous? other? command,
        command.kind ≠ .replay →
        commandLines device config.pause verbose previous? command =
          commandLines device config.pause verbose other? command) ∧
      (∀ earlier command,
        command.kind = .replay →
        safeModeAfter config (earlier ++ [command]) =
            safeModeAfter config earlier ∧
          delayAfter (earlier ++ [command]) = delayAfter earlier) := by
  refine ⟨encode_outcome config script device, ?_, ?_⟩
  · intro verbose previous? other? command kind
    exact commandLines_of_ne_replay device config.pause verbose
      previous? other? kind
  · intro earlier command kind
    exact after_replay config earlier kind

end Stateless

end Keystroke
