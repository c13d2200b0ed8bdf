import Keystroke.Proofs.Annotation

namespace Keystroke

/-!
# Verbosity does not change what a program does

A script is encoded twice, once with safe mode on at first and once with safe
mode off.  Both runs fail alike, or both succeed and the verbose program has the
statements of the quiet one in the same order.  From the first command on that
switches safe mode the two runs do not differ any more.
-/

namespace Verbosity

open Stateless

/-- The safe modes of two runs agree, or both are still the initial ones. -/
theorem safeModeAfter_agrees
    (config : EncoderConfig)
    (earlier : List Command) :
    safeModeAfter (config.withSafeMode true) earlier =
        safeModeAfter (config.withSafeMode false) earlier ∨
      (safeModeAfter (config.withSafeMode true) earlier = true ∧
        safeModeAfter (config.withSafeMode false) earlier = false) := by
  simp only [safeModeAfter, Command.latest, EncoderConfig.withSafeMode]
  cases earlier.reverse.findSome? Command.switch? with
  | none =>
      exact .inr ⟨rfl, rfl⟩
  | some enabled =>
      exact .inl rfl

/-- The safe modes of two runs agree after a command that switches it. -/
theorem safeModeAfter_of_switch
    (config : EncoderConfig)
    {earlier : List Command}
    {command : Command}
    (member : command ∈ earlier)
    (switches : command.switch? ≠ none) :
    safeModeAfter (config.withSafeMode true) earlier =
      safeModeAfter (config.withSafeMode false) earlier :=
  Command.latest_of_mem member switches _ _

/--
The verbose and the quiet program of one script.  They are made of blocks, one
for every command, and a block of the verbose program elaborates that of the
quiet one.  The waits for the default delay are the same in both, and blocks
after a switch of safe mode are the same altogether, as are the footers.
-/
structure SameProgram
    (config : EncoderConfig)
    (script : Script)
    (device : Device)
    (verboseBlocks quietBlocks : List (List String)) :
    Prop where
  verboseMade :
    blocks (config.withSafeMode true) device script.commands =
      .ok verboseBlocks
  quietMade :
    blocks (config.withSafeMode false) device script.commands =
      .ok quietBlocks
  verboseOutcome :
    (Encoder.encode (config.withSafeMode true) script device).outcome =
      .ok (programOf (config.withSafeMode true) script device verboseBlocks)
  quietOutcome :
    (Encoder.encode (config.withSafeMode false) script device).outcome =
      .ok (programOf (config.withSafeMode false) script device quietBlocks)
  elaborated :
    ∀ index command,
      script.commands[index]? = some command →
      ∃ verboseLines quietLines wait,
        wait =
            delayLines device.family
              (delayAfter (script.commands.take index)) command ∧
          verboseBlocks[index]? = some (verboseLines ++ wait ++ [""]) ∧
          quietBlocks[index]? = some (quietLines ++ wait ++ [""]) ∧
          Elaborates device.family quietLines verboseLines
  sameAfterSwitch :
    ∀ (earlier later : Nat) (command : Command),
      script.commands[earlier]? = some command →
      command.switch? ≠ none →
      earlier < later →
      verboseBlocks[later]? = quietBlocks[later]?
  sameFooter :
    ∀ command ∈ script.commands,
      command.switch? ≠ none →
      device.family.footer
          (safeModeAfter (config.withSafeMode true) script.commands) =
        device.family.footer
          (safeModeAfter (config.withSafeMode false) script.commands)

/-- Two runs plan every command alike, so they have the same faults. -/
theorem blocks_agree
    (config : EncoderConfig)
    (device : Device)
    (commands : List Command) :
    (∃ fault,
      blocks (config.withSafeMode true) device commands = .error fault ∧
        blocks (config.withSafeMode false) device commands =
          .error fault) ∨
      ∃ verboseBlocks quietBlocks,
        blocks (config.withSafeMode true) device commands =
            .ok verboseBlocks ∧
          blocks (config.withSafeMode false) device commands =
            .ok quietBlocks := by
  apply Outcome.mapM_agree
  intro item _ fault
  rw [block_eq_error, block_eq_error]
  rfl

/-- The lines of a command elaborate, and so does its echo. -/
theorem blockLines_elaborate
    {config : EncoderConfig}
    {device : Device}
    {earlier : List Command}
    {pause : Text.Milliseconds}
    {previous? : Option Command}
    {command : Command}
    {plan : Plan String}
    (planned : command.planFor device pause previous? = .ok plan)
    (index : Nat) :
    Elaborates device.family
      (echoLines device.family
          (safeModeAfter (config.withSafeMode false) earlier) index command ++
        (plan.lines device.family
          (safeModeAfter (config.withSafeMode false) earlier)).map
            device.family.bodyLine)
      (echoLines device.family
          (safeModeAfter (config.withSafeMode true) earlier) index command ++
        (plan.lines device.family
          (safeModeAfter (config.withSafeMode true) earlier)).map
            device.family.bodyLine) := by
  rcases safeModeAfter_agrees config earlier with same | ⟨isOn, isOff⟩
  · rw [same]
    exact .refl _
  · rw [isOn, isOff]
    have lines :=
      Plan.lines_elaborate device.family (Command.planFor_wellNoted planned)
    exact .insert _ lines

/-- Blocks that were made in both runs belong to the same program. -/
theorem sameProgram_of_blocks
    {config : EncoderConfig}
    {script : Script}
    {device : Device}
    {verboseBlocks quietBlocks : List (List String)}
    (verboseMade :
      blocks (config.withSafeMode true) device script.commands =
        .ok verboseBlocks)
    (quietMade :
      blocks (config.withSafeMode false) device script.commands =
        .ok quietBlocks) :
    SameProgram config script device verboseBlocks quietBlocks where
  verboseMade :=
    verboseMade
  quietMade :=
    quietMade
  verboseOutcome := by
    rw [encode_outcome, program, verboseMade]
    rfl
  quietOutcome := by
    rw [encode_outcome, program, quietMade]
    rfl
  elaborated := by
    intro index command atIndex
    obtain ⟨verboseBlock, verboseAt, verboseShape⟩ :=
      exists_block_at verboseMade atIndex
    obtain ⟨quietBlock, quietAt, quietShape⟩ :=
      exists_block_at quietMade atIndex
    obtain ⟨plan, planned, verboseLines⟩ := block_eq_ok.mp verboseShape
    obtain ⟨quietPlan, quietPlanned, quietLines⟩ :=
      block_eq_ok.mp quietShape
    have samePlan : plan = quietPlan := by
      have bothPlanned := planned.symm.trans quietPlanned
      cases bothPlanned
      rfl
    subst samePlan
    exact ⟨_, _, _, rfl, by rw [verboseAt, verboseLines],
      by rw [quietAt, quietLines], blockLines_elaborate planned index⟩
  sameAfterSwitch := by
    intro earlier later command atEarlier switches before
    have member : command ∈ script.commands.take later := by
      apply List.mem_of_getElem? (i := earlier)
      rw [List.getElem?_take_of_lt before]
      exact atEarlier
    have sameMode := safeModeAfter_of_switch config member switches
    cases atLater : script.commands[later]? with
    | none =>
        have outside := List.getElem?_eq_none_iff.mp atLater
        rw [List.getElem?_eq_none_iff.mpr, List.getElem?_eq_none_iff.mpr]
        · rw [length_blocks quietMade]
          exact outside
        · rw [length_blocks verboseMade]
          exact outside
    | some laterCommand =>
        obtain ⟨verboseBlock, verboseAt, verboseShape⟩ :=
          exists_block_at verboseMade atLater
        obtain ⟨quietBlock, quietAt, quietShape⟩ :=
          exists_block_at quietMade atLater
        have sameBlock : verboseBlock = quietBlock := by
          simp only [block, sameMode] at verboseShape quietShape
          have bothMade := verboseShape.symm.trans quietShape
          cases bothMade
          rfl
        rw [verboseAt, quietAt, sameBlock]
  sameFooter := by
    intro command member switches
    rw [safeModeAfter_of_switch config member switches]

/--
Two runs that differ only in the initial safe mode fail alike, or both succeed
with programs that differ only in comments, and not at all after a switch.
-/
theorem encode_withSafeMode_noninterference
    (config : EncoderConfig)
    (script : Script)
    (device : Device) :
    (∃ failure,
      (Encoder.encode (config.withSafeMode true) script device).outcome =
          .error failure ∧
        (Encoder.encode (config.withSafeMode false) script device).outcome =
          .error failure) ∨
      ∃ verboseBlocks quietBlocks,
        SameProgram config script device verboseBlocks quietBlocks := by
  rcases blocks_agree config device script.commands with
    ⟨fault, verboseFault, quietFault⟩ |
    ⟨verboseBlocks, quietBlocks, verboseMade, quietMade⟩
  · refine .inl ⟨.encode fault.message, ?_, ?_⟩
    · rw [encode_outcome, program, verboseFault]
      rfl
    · rw [encode_outcome, program, quietFault]
      rfl
  · exact .inr ⟨verboseBlocks, quietBlocks,
      sameProgram_of_blocks verboseMade quietMade⟩

end Verbosity

end Keystroke
