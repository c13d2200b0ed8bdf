import Keystroke.Proofs.CarriageReturns
import Keystroke.Proofs.FrontEnds
import Mathlib.Data.List.Induction

namespace Keystroke

/-!
# How far the log shows a run to have come

Every run writes records on its way and keeps those that it wrote before it
failed.  A line that is read is traced with its number and its rule, and a
command is announced before it is encoded.  So the records of a run are those of
its steps up to the one that failed, and a step that fails writes nothing after
its announcement.
-/

namespace Run

variable
  {Fault OtherFault Value Result : Type}

@[simp] theorem records_map
    (change : Value → Result)
    (run : Run Fault Value) :
    (change <$> run).records = run.records :=
  rfl

@[simp] theorem records_mapFault
    (change : Fault → OtherFault)
    (run : Run Fault Value) :
    (run.mapFault change).records = run.records :=
  rfl

/-- A run that goes on writes its records before those that follow. -/
theorem records_bind_of_ok
    {run : Run Fault Value}
    {value : Value}
    (done : run.outcome = .ok value)
    (next : Value → Run Fault Result) :
    (run >>= next).records = run.records ++ (next value).records := by
  simp only [bind, andThen, done]

/-- A run that has failed writes nothing more. -/
theorem records_bind_of_error
    {run : Run Fault Value}
    {fault : Fault}
    (failed : run.outcome = .error fault)
    (next : Value → Run Fault Result) :
    (run >>= next).records = run.records := by
  simp only [bind, andThen, failed]

end Run

/-! ## Reading -/

namespace Script

/-- The record of a numbered line that a rule accepts. -/
def traceOf?
    (item : Nat × String) :
    Option Record :=
  (Grammar.matchLine? item.2).map fun (rule, _) =>
    { level := .trace
      message :=
        "line " ++ item.1.repr ++ " matched rule '" ++ rule.name ++ "'" }

/-- The record of a script that was read. -/
def readRecord
    (script : Script) :
    Record where
  level := .debug
  message :=
    "parsed " ++ script.totalCommands.repr ++ " commands from " ++
      script.totalLines.repr ++ " lines of " ++ script.source

/-- A line has a trace if a rule accepts it. -/
@[simp] theorem isSome_traceOf?
    (item : Nat × String) :
    (traceOf? item).isSome = (Grammar.matchLine? item.2).isSome :=
  Option.isSome_map

/-- The only record of a line is its trace. -/
theorem readLine_records
    (source : String)
    (item : Nat × String) :
    (readLine source item.1 item.2).records = (traceOf? item).toList := by
  unfold readLine traceOf?
  split
  · rename_i none
    rw [none]
    rfl
  · rename_i rule reading found
    rw [found]
    rfl

/-- Visible lines are traced up to the first that no rule accepts. -/
theorem readLines_records
    (source : String)
    (number : Nat)
    (lines : List String) :
    (readLines source number lines).records =
      ((visibleFrom number lines).takeWhile fun item =>
        (traceOf? item).isSome).filterMap traceOf? := by
  induction lines generalizing number with
  | nil =>
      rfl
  | cons line rest inductionHypothesis =>
      rw [visibleFrom_cons]
      simp only [readLines, String.isEmpty_iff]
      split
      · exact inductionHypothesis (number + 1)
      · have traced := readLine_records source (number, Text.trim line)
        cases found : Grammar.matchLine? (Text.trim line) with
        | none =>
            have refused :
                (readLine source number (Text.trim line)).outcome =
                  .error (refusal source number (Text.trim line)) :=
              readLine_eq_error.mpr ⟨found, rfl⟩
            have noTrace : traceOf? (number, Text.trim line) = none := by
              rw [traceOf?, found]
              rfl
            -- The lines below a refused one are never looked at.
            rw [Run.records_bind_of_error refused, traced, noTrace,
              List.takeWhile_cons_of_neg (by simp [noTrace])]
            rfl
        | some item =>
            have accepted :
                Outcome.Succeeds
                  (readLine source number (Text.trim line)).outcome :=
              succeeds_readLine.mpr (Option.isSome_of_eq_some found)
            obtain ⟨command, done⟩ := accepted
            obtain ⟨record, isTrace⟩ :
                ∃ record, traceOf? (number, Text.trim line) = some record := by
              rw [traceOf?, found]
              exact ⟨_, rfl⟩
            rw [Run.records_bind_of_ok done, traced, isTrace,
              Run.records_map, inductionHypothesis,
              List.takeWhile_cons_of_pos (by simp [isTrace]),
              List.filterMap_cons_some isTrace]
            rfl

/-- The records of reading are the traces, and a last one if it succeeds. -/
theorem read_records
    (text source : String) :
    (read text source).records =
      (readLines source 1 (Text.lines text)).records ++
        match (read text source).outcome with
        | .ok script => [script.readRecord]
        | .error _ => [] := by
  unfold read
  cases done : (readLines source 1 (Text.lines text)).outcome with
  | error failure =>
      rw [Run.records_bind_of_error done, Run.outcome_bind, done]
      simp [bind, Except.bind]
  | ok commands =>
      rw [Run.records_bind_of_ok done, Run.outcome_bind, done]
      rfl

/-- Lines that are all accepted have one trace each. -/
theorem forall₂_traces
    {items : List (Nat × String)}
    (accepted : ∀ item ∈ items, (traceOf? item).isSome) :
    List.Forall₂ (fun item record => traceOf? item = some record) items
      (items.filterMap traceOf?) := by
  induction items with
  | nil =>
      exact .nil
  | cons item rest inductionHypothesis =>
      obtain ⟨record, isTrace⟩ :=
        Option.isSome_iff_exists.mp (accepted item List.mem_cons_self)
      rw [List.filterMap_cons_some isTrace]
      exact .cons isTrace
        (inductionHypothesis fun later member =>
          accepted later (List.mem_cons_of_mem item member))

/-- A text that is not read has its visible lines traced up to the refused. -/
theorem exists_traces_of_error
    {text source : String}
    {failure : Failure}
    (failed : (read text source).outcome = .error failure) :
    ∃ earlier number line later,
      visibleLines text = earlier ++ (number, line) :: later ∧
        Grammar.matchLine? line = none ∧
        failure = refusal source number line ∧
        List.Forall₂ (fun item record => traceOf? item = some record)
          earlier (read text source).records := by
  have records := read_records text source
  rw [failed, readLines_records] at records
  rw [read_outcome] at failed
  obtain ⟨earlier, ⟨number, line⟩, later, shape, done, atLine⟩ :=
    Outcome.mapM_eq_error (Outcome.eq_error_of_map failed)
  obtain ⟨refused, isFailure⟩ := readLine_eq_error.mp atLine
  have accepted : ∀ item ∈ earlier, (traceOf? item).isSome := by
    intro item member
    rw [isSome_traceOf?]
    exact succeeds_readLine.mp (done item member)
  have reached :
      (visibleLines text).takeWhile (fun item => (traceOf? item).isSome) =
        earlier := by
    rw [shape, List.takeWhile_append_of_pos accepted, List.takeWhile_cons]
    simp [refused]
  rw [← visibleLines, reached, List.append_nil] at records
  refine ⟨earlier, number, line, later, shape, refused, isFailure, ?_⟩
  rw [records]
  exact forall₂_traces accepted

/-- A script that is read has every command traced, and is told of. -/
theorem exists_traces_of_ok
    {text source : String}
    {script : Script}
    (accepted : (read text source).outcome = .ok script) :
    ∃ traces,
      List.Forall₂ (fun item record => traceOf? item = some record)
          (visibleLines text) traces ∧
        (read text source).records = traces ++ [script.readRecord] := by
  have records := read_records text source
  rw [accepted, readLines_records] at records
  have traced : ∀ item ∈ visibleLines text, (traceOf? item).isSome := by
    intro item member
    obtain ⟨command, _, readAt⟩ :=
      Outcome.exists_of_mem_results
        (readsAll_of_read accepted).commands.flip member
    obtain ⟨rule, found⟩ := readAt.accepted
    rw [isSome_traceOf?, found]
    rfl
  rw [← visibleLines, List.takeWhile_eq_self_iff.mpr traced] at records
  exact ⟨_, forall₂_traces traced, records⟩

/-- The commands of a script that is read stand at its visible lines. -/
theorem visibleLines_of_read
    {text source : String}
    {script : Script}
    (accepted : (read text source).outcome = .ok script) :
    visibleLines text =
      script.commands.map fun command => (command.line, command.rawText) := by
  rw [← List.forall₂_eq_eq_eq, List.forall₂_map_right_iff]
  refine (readsAll_of_read accepted).commands.imp ?_
  rintro ⟨number, line⟩ command ⟨isLine, isText, _⟩
  rw [isLine, isText]

/-- The numbers of the visible lines increase. -/
theorem visibleLines_increase
    (text : String) :
    (visibleLines text).Pairwise fun first second => first.1 < second.1 := by
  have numbers :
      ((Text.lines text).zipIdx 1).Pairwise fun first second =>
        first.2 < second.2 := by
    rw [← List.pairwise_map, List.zipIdx_map_snd]
    exact List.pairwise_lt_range'
  refine List.Pairwise.filter _ ?_
  rw [List.pairwise_map]
  exact numbers

end Script

/-! ## Encoding -/

namespace Command

/-- The warning that a command has no encoding, if its kind is custom. -/
def warning?
    (command : Command) :
    Option Record :=
  match command.kind with
  | .custom name =>
      some
        { level := .warn
          message :=
            "line " ++ command.line.repr ++ ": no encoding for command '" ++
              name ++ "'" }
  | _ =>
      none

/--
The warning that is given when a command is encoded.  A repetition encodes the
command before it once more, and is warned of as that command was.
-/
def warningAfter?
    (previous? : Option Command)
    (command : Command) :
    Option Record :=
  if command.kind = .replay then
    previous?.bind warning?
  else
    command.warning?

/-- A warning is a record of that level. -/
theorem level_of_warningAfter?
    {previous? : Option Command}
    {command : Command}
    {record : Record}
    (warned : command.warningAfter? previous? = some record) :
    record.level = .warn := by
  have own
      {command : Command}
      (isOwn : command.warning? = some record) :
      record.level = .warn := by
    unfold warning? at isOwn
    split at isOwn
    · cases isOwn
      rfl
    · cases isOwn
  unfold warningAfter? at warned
  split at warned
  · obtain ⟨previous, _, isOwn⟩ := Option.bind_eq_some_iff.mp warned
    exact own isOwn
  · exact own warned

/-- A plan in the list has the warning of its command as its notice. -/
theorem Planned.notices_eq
    {pause : Text.Milliseconds}
    {command : Command}
    {plan : Plan KeyName}
    (planned : Planned pause command plan) :
    plan.notices = command.warning?.toList := by
  cases planned with
  | comment kind =>
      rcases kind with kind | kind <;> simp [warning?, kind, Plan.ofEntries]
  | custom kind =>
      simp [warning?, kind, customPlan]
  | key kind | delay kind | text kind | combination kind | pause kind
  | safeModeOn kind | safeModeOff kind | attackModeOn kind
  | attackModeOff kind | attackModeKeyboard kind | attackModeStorage kind
  | attackModeOther kind | defaultDelay kind | randomDelay kind | log kind
  | validate kind | branch kind | otherwise kind | endBranch kind | loop kind
  | endLoop kind =>
      simp [warning?, kind, keyPlan, pausePlan, switchPlan, Plan.ofSteps,
        Plan.ofEntries]

/-- The notices of a plan for a device are the warning of its command. -/
theorem planFor_notices
    {device : Device}
    {pause : Text.Milliseconds}
    {previous? : Option Command}
    {command : Command}
    {plan : Plan String}
    (planned : command.planFor device pause previous? = .ok plan) :
    plan.notices = (command.warningAfter? previous?).toList := by
  obtain ⟨named, namedPlan, resolved⟩ := planFor_eq_ok.mp planned
  obtain ⟨_, _, sameNotices⟩ := Plan.resolve_eq_ok.mp resolved
  rw [sameNotices]
  rcases plan_eq_ok.mp namedPlan with direct | replayed
  · rw [direct.notices_eq, warningAfter?, if_neg direct.kind_ne_replay]
  · cases replayed with
    | replay kind _ _ _ isPrevious repeatedPlanned =>
        rw [warningAfter?, if_pos kind, isPrevious]
        exact repeatedPlanned.notices_eq

end Command

namespace Stateless

/-- The record that announces the command at an index. -/
def announcement
    (index : Nat)
    (command : Command) :
    Record where
  level := .debug
  message :=
    "encoding command " ++ (index + 1).repr ++ " (" ++
      command.kind.keyword ++ ") from line " ++ command.line.repr

/-- The records of a command that is encoded after some others. -/
def recordsAfter
    (earlier : List Command)
    (command : Command) :
    List Record :=
  announcement earlier.length command ::
    (command.warningAfter? earlier.getLast?).toList

/-- The records of commands that are all encoded. -/
def recordsOf
    (commands : List Command) :
    List Record :=
  commands.zipIdx.flatMap fun (command, index) =>
    recordsAfter (commands.take index) command

/-- The record of a program that was encoded. -/
def encodeRecord
    (script : Script)
    (device : Device)
    (entries : List String) :
    Record where
  level := .info
  message :=
    "encoded " ++ script.totalCommands.repr ++ " commands for " ++
      device.id ++ " (" ++ entries.length.repr ++ " lines)"

/-- One more command that is encoded adds its records. -/
theorem recordsOf_append_singleton
    (earlier : List Command)
    (command : Command) :
    recordsOf (earlier ++ [command]) =
      recordsOf earlier ++ recordsAfter earlier command := by
  have sameBefore :
      ∀ item ∈ earlier.zipIdx,
        recordsAfter ((earlier ++ [command]).take item.2) item.1 =
          recordsAfter (earlier.take item.2) item.1 := by
    rintro ⟨other, index⟩ member
    have inRange : index < earlier.length :=
      (List.getElem?_eq_some_iff.mp
        (List.mk_mem_zipIdx_iff_getElem?.mp member)).1
    rw [List.take_append_of_le_length (Nat.le_of_lt inRange)]
  simp only [recordsOf, List.zipIdx_append, List.flatMap_append]
  rw [List.flatMap_congr sameBefore]
  simp

/-- Every command has a plan for a device, after those before it. -/
def HavePlans
    (config : EncoderConfig)
    (device : Device)
    (commands : List Command) :
    Prop :=
  ∀ (index : Nat) (command : Command),
    commands[index]? = some command →
    Outcome.Succeeds
      (command.planFor device config.pause (commands.take index).getLast?)

section Steps

variable
  {config : EncoderConfig}
  {device : Device}
  {commands earlier : List Command}
  {command : Command}

/-- The commands before an index have plans, and look back at no others. -/
theorem havePlans_take
    {index : Nat}
    (planned :
      ∀ before, before < index →
        ∀ earlier ∈ commands[before]?,
          Outcome.Succeeds
            (earlier.planFor device config.pause
              (commands.take before).getLast?)) :
    HavePlans config device (commands.take index) := by
  intro before earlier atBefore
  have isBefore : before < index := by
    obtain ⟨inRange, _⟩ := List.getElem?_eq_some_iff.mp atBefore
    rw [List.length_take] at inRange
    omega
  rw [List.getElem?_take_of_lt isBefore] at atBefore
  rw [List.take_take, Nat.min_eq_left (Nat.le_of_lt isBefore)]
  exact planned before isBefore earlier atBefore

/-- A command with a block has a plan. -/
theorem succeeds_planFor_of_block
    {index : Nat}
    (made : Outcome.Succeeds (block config device commands index command)) :
    Outcome.Succeeds
      (command.planFor device config.pause
        (commands.take index).getLast?) := by
  obtain ⟨lines, blockMade⟩ := made
  obtain ⟨plan, hasPlan, _⟩ := block_eq_ok.mp blockMade
  exact ⟨plan, hasPlan⟩

/-- A step with a plan announces its command, warns of it and goes on. -/
theorem encodeCommands_records_of_planned
    {plan : Plan String}
    (planned :
      command.planFor device config.pause earlier.getLast? = .ok plan)
    (later : List Command) :
    (Encoder.encodeCommands config device (earlier.length + 1)
        (.after config.safeMode earlier) (command :: later)).records =
      recordsAfter earlier command ++
        (Encoder.encodeCommands config device
          ((earlier ++ [command]).length + 1)
          (.after config.safeMode (earlier ++ [command])) later).records := by
  have hasPlan :
      (Run.ofExcept
          (command.planFor device config.pause
            (Context.after config.safeMode earlier).previous?)).outcome =
        .ok plan :=
    planned
  have nextContext :
      ((Context.after config.safeMode earlier).apply
          plan.change).withPrevious command =
        .after config.safeMode (earlier ++ [command]) := by
    rw [Command.planFor_change planned, Context.after_append_singleton]
  rw [Encoder.encodeCommands, Run.records_bind_of_ok rfl,
    Run.records_bind_of_ok hasPlan, Run.records_bind_of_ok rfl,
    Run.records_map, nextContext, recordsAfter,
    ← Command.planFor_notices planned, List.length_append]
  rfl

/-- A step without a plan announces its command and nothing more. -/
theorem encodeCommands_records_of_refused
    {fault : EncodeFault}
    (refused :
      command.planFor device config.pause earlier.getLast? = .error fault)
    (later : List Command) :
    (Encoder.encodeCommands config device (earlier.length + 1)
        (.after config.safeMode earlier) (command :: later)).records =
      [announcement earlier.length command] := by
  have noPlan :
      (Run.ofExcept
          (command.planFor device config.pause
            (Context.after config.safeMode earlier).previous?)).outcome =
        .error fault :=
    refused
  rw [Encoder.encodeCommands, Run.records_bind_of_ok rfl,
    Run.records_bind_of_error noPlan]
  rfl

/--
The loop invariant of the log.  Once some commands have been encoded, the log
holds their records, and the run goes on with the others.
-/
theorem encodeCommands_records
    (planned : HavePlans config device earlier)
    (later : List Command) :
    (Encoder.encodeCommands config device 1 (.initial config.safeMode)
        (earlier ++ later)).records =
      recordsOf earlier ++
        (Encoder.encodeCommands config device (earlier.length + 1)
          (.after config.safeMode earlier) later).records := by
  -- From the last command on, because a command looks back at those before it.
  induction earlier using List.reverseRecOn generalizing later with
  | nil =>
      rfl
  | append_singleton done last inductionHypothesis =>
      have donePlanned :
          HavePlans config device ((done ++ [last]).take done.length) :=
        havePlans_take fun before _ other => planned before other
      obtain ⟨plan, lastPlanned⟩ := planned done.length last (by simp)
      rw [List.take_left] at donePlanned lastPlanned
      rw [List.append_assoc, List.singleton_append,
        inductionHypothesis donePlanned,
        encodeCommands_records_of_planned lastPlanned,
        recordsOf_append_singleton, List.append_assoc]

end Steps

/-- The records of encoding are those of the commands, and a last one. -/
theorem encode_records
    (config : EncoderConfig)
    (script : Script)
    (device : Device) :
    (Encoder.encode config script device).records =
      (Encoder.encodeCommands config device 1 (.initial config.safeMode)
          script.commands).records ++
        match blocks config device script.commands with
        | .ok written =>
            [encodeRecord script device
              (entriesOf config script device written)]
        | .error _ => [] := by
  have body := encodeCommands_outcome config device [] script.commands
  rw [List.length_nil, Context.after_nil] at body
  change
    (Encoder.encodeCommands config device 1 (.initial config.safeMode)
        script.commands).outcome =
      (blocks config device script.commands).map _ at body
  rw [Encoder.encode, Run.records_mapFault, Run.records_map,
    Encoder.encodeLines]
  cases made : blocks config device script.commands with
  | error fault =>
      rw [made] at body
      rw [Run.records_bind_of_error body, List.append_nil]
  | ok written =>
      rw [made] at body
      rw [Run.records_bind_of_ok body]
      rfl

/-- If every command has a block, all are encoded and the program is told. -/
theorem encode_records_of_blocks
    {config : EncoderConfig}
    {script : Script}
    {device : Device}
    {written : List (List String)}
    (made : blocks config device script.commands = .ok written) :
    (Encoder.encode config script device).records =
      recordsOf script.commands ++
        [encodeRecord script device
          (entriesOf config script device written)] := by
  have planned : HavePlans config device script.commands := by
    intro index command atIndex
    obtain ⟨lines, _, blockMade⟩ := exists_block_at made atIndex
    exact succeeds_planFor_of_block ⟨lines, blockMade⟩
  have body := encodeCommands_records planned []
  rw [List.append_nil] at body
  rw [encode_records, made, body, List.append_assoc]
  rfl

/-- The first command without a block is the last that is announced. -/
theorem encode_records_of_first
    {config : EncoderConfig}
    {script : Script}
    {device : Device}
    {index : Nat}
    {command : Command}
    {fault : EncodeFault}
    (atIndex : script.commands[index]? = some command)
    (refused :
      block config device script.commands index command = .error fault)
    (done :
      ∀ before, before < index →
        ∀ earlier ∈ script.commands[before]?,
          Outcome.Succeeds
            (block config device script.commands before earlier)) :
    (Encoder.encode config script device).records =
      recordsOf (script.commands.take index) ++
        [announcement index command] := by
  obtain ⟨inRange, isCommand⟩ := List.getElem?_eq_some_iff.mp atIndex
  have length : (script.commands.take index).length = index := by
    rw [List.length_take, Nat.min_eq_left (Nat.le_of_lt inRange)]
  have cut :
      script.commands =
        script.commands.take index ++
          command :: script.commands.drop (index + 1) := by
    rw [← isCommand, ← List.drop_eq_getElem_cons inRange,
      List.take_append_drop]
  have planned : HavePlans config device (script.commands.take index) := by
    refine havePlans_take fun before isBefore earlier atBefore => ?_
    exact succeeds_planFor_of_block (done before isBefore earlier atBefore)
  have body :=
    encodeCommands_records planned
      (command :: script.commands.drop (index + 1))
  rw [← cut, encodeCommands_records_of_refused (block_eq_error.mp refused),
    length] at body
  rw [encode_records, body]
  -- No program is told of, because the command at the index has no block.
  cases made : blocks config device script.commands with
  | error other =>
      rw [List.append_nil]
  | ok written =>
      obtain ⟨lines, _, blockMade⟩ := exists_block_at made atIndex
      rw [refused] at blockMade
      cases blockMade

/--
How the log of an encoding tells where it stopped.  Either every command is
announced and warned of in its turn, and a last record tells the length of the
program.  Or the last record announces the first command that is not fit, the
commands before it are announced and warned of, and the others are not.
-/
inductive EncodeLog
    (config : EncoderConfig)
    (script : Script)
    (device : Device) :
    Prop where
  | finished
      {entries : List String} :
      (Encoder.encodeLines config script device).outcome = .ok entries →
      (Encoder.encode config script device).outcome =
        .ok ("\n".intercalate entries ++ "\n") →
      (Encoder.encode config script device).records =
        recordsOf script.commands ++ [encodeRecord script device entries] →
      EncodeLog config script device
  | stopped
      {index : Nat}
      {command : Command}
      {explanation : String} :
      script.commands[index]? = some command →
      (∀ before, before < index →
        EncodableAt device.Knows script.commands before) →
      ¬ EncodableAt device.Knows script.commands index →
      (Encoder.encode config script device).outcome =
        .error (.encode (explanation ++ ": " ++ command.rawText)) →
      (Encoder.encode config script device).records =
        recordsOf (script.commands.take index) ++
          [announcement index command] →
      EncodeLog config script device

/-- The log of an encoding tells where it stopped. -/
theorem encodeLog
    (config : EncoderConfig)
    (script : Script)
    (device : Device) :
    EncodeLog config script device := by
  cases made : blocks config device script.commands with
  | ok written =>
      have entries :
          (Encoder.encodeLines config script device).outcome =
            .ok (entriesOf config script device written) := by
        rw [encodeLines_outcome, made]
        rfl
      have outcome :
          (Encoder.encode config script device).outcome =
            .ok ("\n".intercalate (entriesOf config script device written) ++
              "\n") := by
        rw [encode_outcome, program, made]
        rfl
      exact .finished entries outcome (encode_records_of_blocks made)
  | error fault =>
      obtain ⟨index, command, atIndex, refused, done⟩ :=
        exists_first_of_blocks_eq_error made
      have fit := encodableAt_of_succeeds done
      have unfit : ¬ EncodableAt device.Knows script.commands index := by
        rw [← succeeds_block_iff fit atIndex, Outcome.not_succeeds]
        exact ⟨fault, refused⟩
      have outcome :
          (Encoder.encode config script device).outcome =
            .error (.encode
              (fault.cause.message ++ ": " ++ command.rawText)) := by
        rw [encode_outcome, program, made,
          ← faultsOnly_block fit atIndex fault refused]
        rfl
      exact .stopped atIndex fit unfit outcome
        (encode_records_of_first atIndex refused done)

-- A repetition is warned of as the command was, and a repetition of it refused.
example :
    (Encoder.encode {}
        ⟨[⟨.custom "BEEP", 4, "BEEP", []⟩,
            ⟨.replay, 5, "REPEAT 2", ["2"]⟩,
            ⟨.replay, 6, "REPEAT 2", ["2"]⟩,
            ⟨.pause, 7, "PAUSE", []⟩],
          "keys.txt", 7⟩
        (.standard "teensy_4" "Teensy 4.0" .arduino)).records =
      [⟨.debug, "encoding command 1 (BEEP) from line 4"⟩,
        ⟨.warn, "line 4: no encoding for command 'BEEP'"⟩,
        ⟨.debug, "encoding command 2 (REPEAT) from line 5"⟩,
        ⟨.warn, "line 4: no encoding for command 'BEEP'"⟩,
        ⟨.debug, "encoding command 3 (REPEAT) from line 6"⟩] :=
  rfl

/-- Only a program that was encoded is told of. -/
theorem succeeds_encode_iff_told
    {config : EncoderConfig}
    {script : Script}
    {device : Device} :
    Outcome.Succeeds (Encoder.encode config script device).outcome ↔
      ∃ record ∈ (Encoder.encode config script device).records,
        record.level = .info := by
  have notTold
      {commands : List Command}
      {record : Record}
      (member : record ∈ recordsOf commands) :
      record.level ≠ .info := by
    obtain ⟨⟨command, index⟩, _, inRecords⟩ := List.mem_flatMap.mp member
    rcases List.mem_cons.mp inRecords with isAnnounced | isWarning
    · rw [isAnnounced]
      simp [announcement]
    · rw [Command.level_of_warningAfter? (Option.mem_toList.mp isWarning)]
      decide
  cases encodeLog config script device with
  | @finished entries _ outcome records =>
      constructor
      · intro _
        refine ⟨encodeRecord script device entries, ?_, rfl⟩
        rw [records]
        exact List.mem_append_right _ (List.mem_singleton_self _)
      · intro _
        exact ⟨_, outcome⟩
  | stopped _ _ _ outcome records =>
      constructor
      · rintro ⟨code, done⟩
        rw [outcome] at done
        cases done
      · rintro ⟨record, member, isTold⟩
        rw [records] at member
        rcases List.mem_append.mp member with isEarlier | isLast
        · exact absurd isTold (notTold isEarlier)
        · rw [List.mem_singleton.mp isLast] at isTold
          cases isTold

end Stateless

/-! ## Compiling -/

namespace Compilation

/--
How the log of a compilation tells where it stopped.  Either the text is refused
at one of its visible lines, and the log holds one trace for each of the visible
lines before it and nothing more.  Or the log holds one trace for each command,
the number of commands and lines, the warnings in order and then the records of
the encoding.  The numbers of the traced lines increase.
-/
inductive CompileLog
    (text source : String)
    (device : Device)
    (config : EncoderConfig) :
    Prop where
  | refused
      {earlier later : List (Nat × String)}
      {number : Nat}
      {line : String} :
      Script.visibleLines text = earlier ++ (number, line) :: later →
      Grammar.matchLine? line = none →
      (Script.read text source).outcome =
        .error (Script.refusal source number line) →
      List.Forall₂ (fun item record => Script.traceOf? item = some record)
        earlier (compile text source device config).records →
      earlier.Pairwise (fun first second => first.1 < second.1) →
      CompileLog text source device config
  | accepted
      {script : Script}
      {traces : List Record} :
      (Script.read text source).outcome = .ok script →
      List.Forall₂
        (fun command record =>
          Script.traceOf? (command.line, command.rawText) = some record)
        script.commands traces →
      script.commands.Pairwise (fun first second =>
        first.line < second.line) →
      (compile text source device config).records =
        traces ++ [script.readRecord] ++
          (script.advice ++ device.advice script).map (fun warning =>
            ⟨.warn, warning⟩) ++
          (Encoder.encode config script device).records →
      CompileLog text source device config

/-- A text that is not read is compiled no further. -/
theorem compile_records_of_error
    {text source : String}
    {failure : Failure}
    (refused : (Script.read text source).outcome = .error failure)
    (device : Device)
    (config : EncoderConfig) :
    (compile text source device config).records =
      (Script.read text source).records :=
  Run.records_bind_of_error refused _

/-- The log of a compilation tells where it stopped. -/
theorem compileLog
    (text source : String)
    (device : Device)
    (config : EncoderConfig) :
    CompileLog text source device config := by
  have increase := Script.visibleLines_increase text
  cases outcome : (Script.read text source).outcome with
  | error failure =>
      obtain ⟨earlier, number, line, later, shape, refused, rfl, traced⟩ :=
        Script.exists_traces_of_error outcome
      rw [shape, List.pairwise_append] at increase
      rw [← compile_records_of_error outcome device config] at traced
      exact .refused shape refused outcome traced increase.1
  | ok script =>
      obtain ⟨traces, traced, records⟩ := Script.exists_traces_of_ok outcome
      rw [Script.visibleLines_of_read outcome] at traced increase
      rw [List.forall₂_map_left_iff] at traced
      rw [List.pairwise_map] at increase
      refine .accepted outcome traced increase ?_
      rw [compile_records outcome, records]

/--
The log tells where a run stopped.  The log of a compilation traces the lines
before the one that is refused, or all lines, and then holds the warnings and
the records of the encoding.  The log of an encoding announces the commands up
to the first that is not fit, or all, warns where a command without an encoding
is encoded or repeated, and tells the length of the program exactly if there is
one.
-/
theorem log_tells_where_it_stopped
    (text source : String)
    (device : Device)
    (config : EncoderConfig) :
    CompileLog text source device config ∧
      ∀ script,
        Stateless.EncodeLog config script device ∧
          (Outcome.Succeeds (Encoder.encode config script device).outcome ↔
            ∃ record ∈ (Encoder.encode config script device).records,
              record.level = .info) := by
  refine ⟨compileLog text source device config, fun script => ⟨?_, ?_⟩⟩
  · exact Stateless.encodeLog config script device
  · exact Stateless.succeeds_encode_iff_told

end Compilation

end Keystroke
