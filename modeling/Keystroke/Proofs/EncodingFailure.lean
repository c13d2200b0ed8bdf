import Keystroke.Proofs.Encodable
import Keystroke.Proofs.Stateless

namespace Keystroke

/-!
# When encoding fails, and where

Encoding a script succeeds if every command is fit after the one before it, and
otherwise fails with a message that ends in the text of the first command that
is not.  A repetition plans the command before it again; that cannot fail,
because the run has already found this command fit.
-/

/-- The causes that are found before a key is looked up. -/
def Cause.isOfPlanning :
    Cause → Bool
  | .unsupportedKey _ _ => false
  | .missingParameter (.key _) _ => false
  | .missingParameter (.custom _) _ => false
  | _ => true

namespace Command

/-- A fault that shows the text of the command. -/
def Shows
    (command : Command)
    (fault : EncodeFault) :
    Prop :=
  fault.rawText = command.rawText

/-- A fault of the command that is found before a key is looked up. -/
structure Refuses
    (command : Command)
    (fault : EncodeFault) :
    Prop where
  isShown : command.Shows fault
  isOfPlanning : fault.cause.isOfPlanning

section Faults

variable
  {Value : Type}
  {pause : Text.Milliseconds}
  (command : Command)

/-- A fault of a command shows the command. -/
theorem faultsOnly_fault
    {cause : Cause}
    (isOfPlanning : cause.isOfPlanning) :
    Outcome.FaultsOnly command.Refuses
      (.error (command.fault cause) : Except EncodeFault Value) :=
  Outcome.faultsOnly_error ⟨rfl, isOfPlanning⟩

/-- A missing parameter shows the command. -/
theorem faultsOnly_required
    (what : String)
    (isOfPlanning :
      (Cause.missingParameter command.kind what).isOfPlanning) :
    Outcome.FaultsOnly command.Refuses (command.required what) := by
  unfold required
  cases command.firstParameter? with
  | none =>
      exact command.faultsOnly_fault isOfPlanning
  | some value =>
      exact Outcome.faultsOnly_ok value

/-- A parameter that is no duration shows the command. -/
theorem faultsOnly_duration
    (role : DurationRole)
    (parameter? : Option String) :
    Outcome.FaultsOnly command.Refuses
      (command.duration role parameter?) := by
  simp only [duration]
  cases Text.integer? (Text.trim (parameter?.getD "None")) with
  | none =>
      exact command.faultsOnly_fault rfl
  | some number =>
      by_cases negative : number < 0
      · simp only [negative, ↓reduceIte]
        exact command.faultsOnly_fault rfl
      · simp only [negative, ↓reduceIte]
        exact Outcome.faultsOnly_ok _

/-- A parameter that does not switch shows the command. -/
theorem faultsOnly_safeModePlan
    (kind : command.kind = .safeMode) :
    Outcome.FaultsOnly command.Refuses command.safeModePlan := by
  refine (command.faultsOnly_required _ (by rw [kind]; rfl)).bind
    fun value _ => ?_
  by_cases isOn : Text.upper value = "ON"
  · simp only [isOn, ↓reduceIte]
    exact Outcome.faultsOnly_ok _
  by_cases isOff : Text.upper value = "OFF"
  · simp only [isOff]
    exact Outcome.faultsOnly_ok _
  simp only [isOn, isOff, ↓reduceIte]
  exact command.faultsOnly_fault rfl

/-- An attack mode has no fault but a missing parameter. -/
theorem faultsOnly_attackModePlan
    (kind : command.kind = .attackMode) :
    Outcome.FaultsOnly command.Refuses command.attackModePlan := by
  refine (command.faultsOnly_required _ (by rw [kind]; rfl)).bind
    fun value _ => ?_
  dsimp only
  split
  · exact Outcome.faultsOnly_ok _
  split
  · exact Outcome.faultsOnly_ok _
  split
  · exact Outcome.faultsOnly_ok _
  split
  · exact Outcome.faultsOnly_ok _
  exact Outcome.faultsOnly_ok _

/-- Bounds that are no range show the command. -/
theorem faultsOnly_randomDelayPlan :
    Outcome.FaultsOnly command.Refuses command.randomDelayPlan := by
  unfold randomDelayPlan
  split
  · rename_i first second others parameters
    refine (command.faultsOnly_duration _ _).bind fun least _ => ?_
    refine (command.faultsOnly_duration _ _).bind fun most _ => ?_
    by_cases empty : most < least
    · simp only [empty, ↓reduceIte]
      exact command.faultsOnly_fault rfl
    · simp only [empty, ↓reduceIte]
      exact Outcome.faultsOnly_ok _
  · exact command.faultsOnly_fault rfl

/-- Planning a command by itself has no faults but those that show it. -/
theorem faultsOnly_directPlan :
    Outcome.FaultsOnly command.Refuses (command.directPlan pause) := by
  unfold directPlan
  cases kind : command.kind with
  | delay | defaultDelay =>
      exact (command.faultsOnly_duration _ _).bind fun _ _ =>
        Outcome.faultsOnly_ok _
  | text | log | validate | branch | loop =>
      exact (command.faultsOnly_required _ (by rw [kind]; rfl)).bind
        fun _ _ => Outcome.faultsOnly_ok _
  | combination =>
      dsimp only [combinationPlan]
      split
      · exact command.faultsOnly_fault rfl
      · exact Outcome.faultsOnly_ok _
  | safeMode =>
      exact command.faultsOnly_safeModePlan kind
  | attackMode =>
      exact command.faultsOnly_attackModePlan kind
  | randomDelay =>
      exact command.faultsOnly_randomDelayPlan
  | replay =>
      exact command.faultsOnly_fault rfl
  | key | pause | comment | remark | otherwise | endBranch | endLoop
  | custom =>
      exact Outcome.faultsOnly_ok _

/-- A repetition of a command with a plan has no faults but its own. -/
theorem faultsOnly_replayPlan
    {previous? : Option Command}
    (kind : command.kind = .replay)
    (previousPlanned :
      ∀ previous ∈ previous?, previous.kind ≠ .replay →
        Outcome.Succeeds (previous.directPlan pause)) :
    Outcome.FaultsOnly command.Refuses
      (command.replayPlan pause previous?) := by
  refine (command.faultsOnly_required _ (by rw [kind]; rfl)).bind
    fun value _ => ?_
  split
  · exact command.faultsOnly_fault rfl
  split
  · exact command.faultsOnly_fault rfl
  cases previous? with
  | none =>
      exact command.faultsOnly_fault rfl
  | some previous =>
      dsimp only
      split
      · exact command.faultsOnly_fault rfl
      rename_i notReplay
      obtain ⟨repeated, planned⟩ := previousPlanned previous rfl notReplay
      rw [planned]
      exact Outcome.faultsOnly_ok _

/-- After a command that is fit, planning refuses the command only. -/
theorem faultsOnly_plan
    {known : Kind → Prop}
    {previous? : Option Command}
    (previousEncodable :
      ∀ previous ∈ previous?, ∃ before?,
        previous.EncodableAfter known before?) :
    Outcome.FaultsOnly command.Refuses
      (command.plan pause previous?) := by
  unfold plan
  split
  · rename_i kind
    apply command.faultsOnly_replayPlan kind
    intro previous isPrevious notReplay
    obtain ⟨before?, encodable⟩ := previousEncodable previous isPrevious
    obtain ⟨repeated, planned, _⟩ :=
      plannable_of_encodable notReplay encodable
    exact ⟨repeated, planned.directPlan⟩
  · exact command.faultsOnly_directPlan

/-- A key without a symbol shows the command. -/
theorem faultsOnly_symbolFor
    (device : Device)
    (key : KeyName) :
    Outcome.FaultsOnly command.Shows (command.symbolFor device key) := by
  cases key with
  | spelled token =>
      exact Outcome.faultsOnly_ok _
  | known key =>
      simp only [symbolFor]
      split
      · exact Outcome.faultsOnly_ok _
      · exact Outcome.faultsOnly_error rfl

/-- After a command that is fit, planning has no faults but those it shows. -/
theorem faultsOnly_planFor
    {device : Device}
    {previous? : Option Command}
    (previousEncodable :
      ∀ previous ∈ previous?, ∃ before?,
        previous.EncodableAfter device.Knows before?) :
    Outcome.FaultsOnly command.Shows
      (command.planFor device pause previous?) := by
  have planFaults :
      Outcome.FaultsOnly command.Shows (command.plan pause previous?) :=
    fun fault refused =>
      (command.faultsOnly_plan previousEncodable fault refused).isShown
  cases planned : command.plan pause previous? with
  | error fault =>
      rw [planFor, planned]
      exact Outcome.faultsOnly_error (planFaults fault planned)
  | ok named =>
      rcases plan_eq_ok.mp planned with direct | replayed
      · rw [planFor, planned, performed_of_ne_replay direct.kind_ne_replay]
        exact named.faultsOnly_resolve (command.faultsOnly_symbolFor device)
      · obtain ⟨resolved, done⟩ := replayed.succeeds_planFor previousEncodable
        rw [done]
        exact Outcome.faultsOnly_ok resolved

end Faults

end Command

namespace Stateless

/-- The command before the one at an index. -/
def commandBefore?
    (commands : List Command) :
    Nat → Option Command
  | 0 => none
  | index + 1 => commands[index]?

/-- The last command before an index stands directly before it. -/
theorem getLast?_take
    {commands : List Command}
    {index : Nat}
    (inRange : index < commands.length) :
    (commands.take index).getLast? = commandBefore? commands index := by
  cases index with
  | zero =>
      rfl
  | succ previous =>
      have isThere : commands[previous]? = some commands[previous] :=
        List.getElem?_eq_getElem _
      rw [List.getLast?_take, commandBefore?]
      simp [isThere]

/-- The command at an index is fit after the one before it. -/
def EncodableAt
    (known : Kind → Prop)
    (commands : List Command)
    (index : Nat) :
    Prop :=
  ∀ command ∈ commands[index]?,
    command.EncodableAfter known (commandBefore? commands index)

section Blocks

variable
  {config : EncoderConfig}
  {device : Device}
  {commands : List Command}
  {index : Nat}
  {command : Command}

/-- The run invariant: what stands before an index was fit in its place. -/
theorem exists_encodable_before
    (earlier :
      ∀ before, before < index →
        EncodableAt device.Knows commands before) :
    ∀ previous ∈ commandBefore? commands index, ∃ before?,
      previous.EncodableAfter device.Knows before? := by
  intro previous isPrevious
  cases index with
  | zero =>
      cases isPrevious
  | succ before =>
      exact ⟨_, earlier before (Nat.lt_succ_self before) previous isPrevious⟩

/-- After commands that are fit, the block of a command that is fit exists. -/
theorem succeeds_block_iff
    (earlier :
      ∀ before, before < index →
        EncodableAt device.Knows commands before)
    (atIndex : commands[index]? = some command) :
    Outcome.Succeeds (block config device commands index command) ↔
      EncodableAt device.Knows commands index := by
  have inRange : index < commands.length :=
    (List.getElem?_eq_some_iff.mp atIndex).1
  simp only [block, commandLines, Outcome.succeeds_map, getLast?_take inRange]
  rw [Command.succeeds_planFor_iff_encodable
    (exists_encodable_before earlier)]
  simp [EncodableAt, atIndex]

/-- A fault of a block shows its command, if the earlier ones are fit. -/
theorem faultsOnly_block
    (earlier :
      ∀ before, before < index →
        EncodableAt device.Knows commands before)
    (atIndex : commands[index]? = some command) :
    Outcome.FaultsOnly command.Shows
      (block config device commands index command) := by
  have inRange : index < commands.length :=
    (List.getElem?_eq_some_iff.mp atIndex).1
  simp only [block, commandLines, getLast?_take inRange]
  exact ((command.faultsOnly_planFor
    (exists_encodable_before earlier)).map _).map _

/-- Commands whose blocks exist from the first on are fit. -/
theorem encodableAt_of_succeeds
    {bound : Nat}
    (done :
      ∀ index, index < bound →
        ∀ command ∈ commands[index]?,
          Outcome.Succeeds (block config device commands index command))
    (index : Nat)
    (inBound : index < bound) :
    EncodableAt device.Knows commands index := by
  induction index using Nat.strongRecOn with
  | ind index inductionHypothesis =>
      intro command atIndex
      have earlier :
          ∀ before, before < index →
            EncodableAt device.Knows commands before := by
        intro before isBefore
        exact inductionHypothesis before isBefore (by omega)
      exact (succeeds_block_iff earlier atIndex).mp
        (done index inBound command atIndex) command atIndex

/-- All blocks exist if every command is fit. -/
theorem succeeds_blocks_iff :
    Outcome.Succeeds (blocks config device commands) ↔
      ∀ index, EncodableAt device.Knows commands index := by
  have blockwise :
      Outcome.Succeeds (blocks config device commands) ↔
        ∀ index, ∀ command ∈ commands[index]?,
          Outcome.Succeeds (block config device commands index command) := by
    simp only [blocks, Outcome.succeeds_mapM, Prod.forall,
      List.mk_mem_zipIdx_iff_getElem?, Option.mem_def]
    exact forall_comm
  rw [blockwise]
  constructor
  · intro done index
    exact encodableAt_of_succeeds (fun index _ => done index) index
      (Nat.lt_succ_self index)
  · intro encodable index command atIndex
    exact (succeeds_block_iff (fun before _ => encodable before) atIndex).mpr
      (encodable index)

/-- The first command without a block decides. -/
theorem exists_first_of_blocks_eq_error
    {fault : EncodeFault}
    (failed : blocks config device commands = .error fault) :
    ∃ index command,
      commands[index]? = some command ∧
        block config device commands index command = .error fault ∧
        ∀ before, before < index →
          ∀ earlier ∈ commands[before]?,
            Outcome.Succeeds
              (block config device commands before earlier) := by
  obtain ⟨earlier, ⟨command, index⟩, later, shape, done, failure⟩ :=
    Outcome.mapM_eq_error failed
  have atItem : commands.zipIdx[earlier.length]? = some (command, index) := by
    simp [shape]
  obtain ⟨atIndex, sameIndex⟩ :
      commands[earlier.length]? = some command ∧ earlier.length = index := by
    simpa [List.getElem?_zipIdx] using atItem
  subst sameIndex
  refine ⟨earlier.length, command, atIndex, failure, ?_⟩
  intro before isBefore other atBefore
  have otherItem : commands.zipIdx[before]? = some (other, before) := by
    rw [List.getElem?_zipIdx, Option.mem_def.mp atBefore]
    simp
  rw [shape, List.getElem?_append_left isBefore] at otherItem
  exact done (other, before) (List.mem_of_getElem? otherItem)

/-- A command without a plan after commands that are fit decides. -/
theorem blocks_eq_error_of_first
    {earlier later : List Command}
    {fault : EncodeFault}
    (fit :
      ∀ before, before < earlier.length →
        EncodableAt device.Knows (earlier ++ command :: later) before)
    (failed :
      command.planFor device config.pause earlier.getLast? =
        .error fault) :
    blocks config device (earlier ++ command :: later) = .error fault := by
  have cut :
      (earlier ++ command :: later).zipIdx =
        earlier.zipIdx ++
          (command, earlier.length) ::
            later.zipIdx (earlier.length + 1) := by
    simp [List.zipIdx_append]
  rw [blocks, cut]
  apply Outcome.mapM_append_eq_error
  · rintro ⟨before, position⟩ member
    rw [List.mk_mem_zipIdx_iff_getElem?] at member
    have inRange : position < earlier.length :=
      (List.getElem?_eq_some_iff.mp member).1
    refine (succeeds_block_iff ?_ ?_).mpr (fit position inRange)
    · intro other isBefore
      exact fit other (Nat.lt_trans isBefore inRange)
    · rw [List.getElem?_append_left inRange]
      exact member
  · rw [block_eq_error, List.take_left]
    exact failed

end Blocks

/-- Encoding succeeds if all blocks exist. -/
theorem succeeds_encode_iff
    {config : EncoderConfig}
    {script : Script}
    {device : Device} :
    Outcome.Succeeds (Encoder.encode config script device).outcome ↔
      ∀ index, EncodableAt device.Knows script.commands index := by
  have blockwise :
      Outcome.Succeeds (blocks config device script.commands) ↔
        ∀ index, EncodableAt device.Knows script.commands index :=
    succeeds_blocks_iff
  rw [← blockwise, encode_outcome, program]
  cases blocks config device script.commands with
  | error fault =>
      simp [Outcome.Succeeds, Except.map, Except.mapError]
  | ok written =>
      simp [Outcome.Succeeds, Except.map, Except.mapError]

/-- The message of a failure ends in the text of the first unfit command. -/
theorem exists_first_of_encode_eq_error
    {config : EncoderConfig}
    {script : Script}
    {device : Device}
    {failure : Failure}
    (failed :
      (Encoder.encode config script device).outcome = .error failure) :
    ∃ index command explanation,
      script.commands[index]? = some command ∧
        ¬ EncodableAt device.Knows script.commands index ∧
        (∀ before, before < index →
          EncodableAt device.Knows script.commands before) ∧
        failure = .encode (explanation ++ ": " ++ command.rawText) := by
  rw [encode_outcome, program] at failed
  cases written : blocks config device script.commands with
  | ok lines =>
      rw [written] at failed
      cases failed
  | error fault =>
      rw [written] at failed
      cases failed
      obtain ⟨index, command, atIndex, blockFailed, done⟩ :=
        exists_first_of_blocks_eq_error written
      have earlier := encodableAt_of_succeeds done
      have shown : fault.rawText = command.rawText :=
        faultsOnly_block earlier atIndex fault blockFailed
      refine ⟨index, command, fault.cause.message, atIndex, ?_, earlier, ?_⟩
      · rw [← succeeds_block_iff earlier atIndex, Outcome.not_succeeds]
        exact ⟨fault, blockFailed⟩
      · simp only [EncodeFault.message, shown]

/-- Whether commands are fit is a matter of their kinds and parameters. -/
theorem EncodableAt.of_same_shape
    {known : Kind → Prop}
    {commands others : List Command}
    (sameShape :
      commands.map (fun command => (command.kind, command.parameters)) =
        others.map fun command => (command.kind, command.parameters))
    {index : Nat}
    (encodable : EncodableAt known commands index) :
    EncodableAt known others index := by
  have sameAt
      (index : Nat) :
      commands[index]?.map
          (fun command => (command.kind, command.parameters)) =
        others[index]?.map
          fun command => (command.kind, command.parameters) := by
    rw [← List.getElem?_map, sameShape, List.getElem?_map]
  have sameBefore :
      (commandBefore? commands index).map Command.kind =
        (commandBefore? others index).map Command.kind := by
    cases index with
    | zero =>
        rfl
    | succ before =>
        have sameKind := congrArg (Option.map Prod.fst) (sameAt before)
        rw [Option.map_map, Option.map_map] at sameKind
        exact sameKind
  intro other isOther
  have atIndex := sameAt index
  rw [Option.mem_def.mp isOther] at atIndex
  obtain ⟨command, isCommand, same⟩ := Option.map_eq_some_iff.mp atIndex
  obtain ⟨sameKind, sameParameters⟩ := Prod.mk.inj same
  have fit := encodable command isCommand
  rwa [Command.EncodableAfter, sameKind, sameParameters, sameBefore] at fit

/--
Encoding succeeds exactly if every command is fit, and otherwise its message
ends in the text of the first command that is not.  So success depends on the
kinds and parameters of the commands and on the kinds that the device knows,
and neither on the settings nor on the rest of the script and of the device.
-/
theorem encode_succeeds_iff_encodable
    (config : EncoderConfig)
    (script : Script)
    (device : Device) :
    (Outcome.Succeeds (Encoder.encode config script device).outcome ↔
        ∀ index, EncodableAt device.Knows script.commands index) ∧
      (∀ failure,
        (Encoder.encode config script device).outcome = .error failure →
        ∃ index command explanation,
          script.commands[index]? = some command ∧
            ¬ EncodableAt device.Knows script.commands index ∧
            (∀ before, before < index →
              EncodableAt device.Knows script.commands before) ∧
            failure =
              .encode (explanation ++ ": " ++ command.rawText)) ∧
      (∀ otherConfig otherScript otherDevice,
        (∀ kind, device.Knows kind ↔ otherDevice.Knows kind) →
        script.commands.map
            (fun command => (command.kind, command.parameters)) =
          otherScript.commands.map
            (fun command => (command.kind, command.parameters)) →
        (Outcome.Succeeds (Encoder.encode config script device).outcome ↔
          Outcome.Succeeds
            (Encoder.encode otherConfig otherScript otherDevice).outcome)) := by
  refine ⟨succeeds_encode_iff, ?_, ?_⟩
  · intro failure failed
    exact exists_first_of_encode_eq_error failed
  · intro otherConfig otherScript otherDevice sameKnown sameShape
    have sameKnows : device.Knows = otherDevice.Knows :=
      funext fun kind => propext (sameKnown kind)
    rw [succeeds_encode_iff, succeeds_encode_iff, sameKnows]
    constructor
    · intro encodable index
      exact (encodable index).of_same_shape sameShape
    · intro encodable index
      exact (encodable index).of_same_shape sameShape.symm

end Stateless

end Keystroke
