import Keystroke.Proofs.ProgramLines

namespace Keystroke

/-!
# The same program in both families

What a program does is a matter of the deeds of its commands, and these are the
same on every device.  So two devices that know the same kinds, one of each
family, get programs for the same deeds, or none at all.
-/

namespace Stateless

/--
A program that does what the script says.  It is made of the blocks of the
commands and of nothing else but a header and a footer.  The lines of a block
that are no comments are the statements for the deeds of the command, in the
words of the given family and with the given symbols, and an empty line.  Every
line stands for itself in the text of the program, unless the script or a symbol
brings a line feed.
-/
structure Performs
    (config : EncoderConfig)
    (script : Script)
    (device : Device)
    (family : Family)
    (blocks : List (List String)) :
    Prop where
  made :
    Stateless.blocks config device script.commands = .ok blocks
  outcome :
    (Encoder.encode config script device).outcome =
      .ok (programOf config script device blocks)
  length_eq :
    blocks.length = script.commands.length
  statements :
    ∀ index command,
      script.commands[index]? = some command →
      ∃ lines,
        blocks[index]? = some lines ∧
          lines.filter (fun text => !family.isComment text) =
            Deed.bodyStatements family device.symbol
                (safeModeAfter config (script.commands.take index))
                (deedsAt config.pause script.commands index command) ++
              [""]
  unbroken :
    device.vocabulary.Lacks '\n' →
    (∀ command ∈ script.commands, command.Lacks '\n') →
    ∀ line ∈ blocks.flatten, Text.Lacks '\n' line

/-- The blocks of a script do what the script says. -/
theorem performs_of_blocks
    {config : EncoderConfig}
    {script : Script}
    {device : Device}
    {written : List (List String)}
    (made : blocks config device script.commands = .ok written) :
    Performs config script device device.family written where
  made :=
    made
  outcome := by
    rw [encode_outcome, program, made]
    rfl
  length_eq :=
    length_blocks made
  statements := by
    intro index command atIndex
    obtain ⟨lines, isBlock, blockMade⟩ := exists_block_at made atIndex
    exact ⟨lines, isBlock, filter_block blockMade⟩
  unbroken :=
    lacks_of_blocks (by decide) made

/--
The families write the same program.  For two devices that know the same kinds,
one of each family, encoding succeeds for both or for neither.  If it succeeds,
then the blocks of both programs are written for the same deeds.
-/
theorem encode_performs_in_both_families
    (config : EncoderConfig)
    (script : Script)
    {python arduino : Device}
    (isPython : python.family = .circuitPython)
    (isArduino : arduino.family = .arduino)
    (sameKinds : ∀ kind, python.Knows kind ↔ arduino.Knows kind) :
    (Outcome.Succeeds (Encoder.encode config script python).outcome ↔
        Outcome.Succeeds (Encoder.encode config script arduino).outcome) ∧
      (Outcome.Succeeds (Encoder.encode config script python).outcome →
        ∃ pythonBlocks arduinoBlocks,
          Performs config script python .circuitPython pythonBlocks ∧
            Performs config script arduino .arduino arduinoBlocks) := by
  have sameKnows : python.Knows = arduino.Knows :=
    funext fun kind => propext (sameKinds kind)
  have sameSuccess :
      Outcome.Succeeds (Encoder.encode config script python).outcome ↔
        Outcome.Succeeds (Encoder.encode config script arduino).outcome := by
    rw [succeeds_encode_iff, succeeds_encode_iff, sameKnows]
  refine ⟨sameSuccess, ?_⟩
  intro succeeds
  obtain ⟨_, pythonEncoded⟩ := succeeds
  obtain ⟨_, arduinoEncoded⟩ := sameSuccess.mp ⟨_, pythonEncoded⟩
  obtain ⟨pythonBlocks, pythonMade, _⟩ := exists_blocks_of_encode pythonEncoded
  obtain ⟨arduinoBlocks, arduinoMade, _⟩ :=
    exists_blocks_of_encode arduinoEncoded
  have pythonPerforms := performs_of_blocks pythonMade
  have arduinoPerforms := performs_of_blocks arduinoMade
  rw [isPython] at pythonPerforms
  rw [isArduino] at arduinoPerforms
  exact ⟨pythonBlocks, arduinoBlocks, pythonPerforms, arduinoPerforms⟩

/-- A combination, and a random wait that is repeated. -/
def waitingTwice :
    Script where
  commands :=
    [⟨.combination, 1, "CTRL c", ["CTRL", "c"]⟩,
      ⟨.randomDelay, 2, "RANDOM_DELAY 5 10", ["5", "10"]⟩,
      ⟨.replay, 3, "REPEAT 2", ["2"]⟩]
  source := "keys.txt"
  totalLines := 3

/-- A random wait is repeated alike in both families. -/
theorem encode_performs_in_both_families_waitingTwice :
    (∃ pythonBlocks arduinoBlocks,
      Performs {} waitingTwice
          (.standard "raspberry_pi_pico" "Raspberry Pi Pico" .circuitPython)
          .circuitPython pythonBlocks ∧
        Performs {} waitingTwice
          (.standard "arduino_leonardo" "Arduino Leonardo" .arduino)
          .arduino arduinoBlocks) ∧
      deedsAt 5000 waitingTwice.commands 2
          ⟨.replay, 3, "REPEAT 2", ["2"]⟩ =
        [.loop 2 [.plain (.waitBetween 5 10)]] := by
  refine ⟨?_, by decide⟩
  refine (encode_performs_in_both_families {} waitingTwice rfl rfl ?_).2
    ⟨_, rfl⟩
  intro kind
  exact Device.knows_standard.trans Device.knows_standard.symm

end Stateless

end Keystroke
