import Keystroke.Proofs.Records
import Mathlib.Algebra.Ring.Nat

namespace Keystroke

/-!
# Counting the lines of a program

The lines of a program are counted in three places: the log counts the entries
that the program is made of, a report counts the lines of its text, and the text
itself has its line feeds.  No entry of a program for a script that was read has
a line feed in it, and every entry is closed by one.  So the three agree, and
they agree with a sum that is taken over the commands without any text.
-/

namespace Text

/-- There is one more piece than there are separators. -/
theorem length_pieces
    (isSeparator : Char → Bool)
    (characters : List Char) :
    (pieces isSeparator characters).length =
      characters.countP isSeparator + 1 := by
  induction characters with
  | nil =>
      rfl
  | cons first rest inductionHypothesis =>
      obtain ⟨piece, others, shape⟩ :=
        List.exists_cons_of_ne_nil (pieces_ne_nil isSeparator rest)
      have unfolded :
          pieces isSeparator (first :: rest) =
            prependTo isSeparator first (piece :: others) := by
        rw [← shape]
        rfl
      rw [shape, List.length_cons] at inductionHypothesis
      rw [unfolded, prependTo, List.countP_cons]
      split
      · simp only [List.length_cons]
        omega
      · simp only [List.length_cons]
        omega

/-- A text whose last line is closed has one line feed for every line. -/
theorem counts_of_closed
    {text : String}
    {entries : List String}
    (cut : lines text = entries ++ [""]) :
    lineCount text = entries.length ∧
      text.toList.count '\n' = entries.length := by
  have length := length_pieces (· == '\n') text.toList
  have sameLength := congrArg List.length cut
  rw [lines, List.length_map, length, List.length_append,
    List.length_singleton] at sameLength
  refine ⟨?_, Nat.succ.inj sameLength⟩
  simp [lineCount, cut]

end Text

namespace Stateless

/-- Whether a command is followed by the default delay that holds there. -/
def isDelayed
    (delay : Text.Milliseconds)
    (command : Command) :
    Bool :=
  0 < delay ∧ command.kind ∉ [.comment, .remark, .defaultDelay]

/--
The number of lines of a block: one if the command is echoed, those of the
command, one if the default delay follows, and the empty one.
-/
def blockLength
    (config : EncoderConfig)
    (device : Device)
    (commands : List Command)
    (index : Nat)
    (command : Command) :
    Except EncodeFault Nat :=
  let earlier := commands.take index
  let verbose := safeModeAfter config earlier
  (commandLines device config.pause verbose earlier.getLast? command).map
    fun body =>
      (if verbose then 1 else 0) +
        body.length +
        (if isDelayed (delayAfter earlier) command then 1 else 0) +
        1

/-- The number of lines of a program: header, footer and all blocks. -/
def programLength
    (config : EncoderConfig)
    (script : Script)
    (device : Device) :
    Except EncodeFault Nat :=
  (script.commands.zipIdx.mapM fun item =>
      blockLength config device script.commands item.2 item.1).map
    fun lengths =>
      (device.family.header config.safeMode device.name script.summary
          config.startupDelay).length +
        (device.family.footer
          (safeModeAfter config script.commands)).length +
        lengths.sum

/-- A block has as many lines as are counted. -/
theorem blockLength_of_block
    {config : EncoderConfig}
    {device : Device}
    {commands : List Command}
    {index : Nat}
    {command : Command}
    {lines : List String}
    (made : block config device commands index command = .ok lines) :
    blockLength config device commands index command = .ok lines.length := by
  obtain ⟨body, written, rfl⟩ := Outcome.map_eq_ok.mp made
  have echoed :
      (echoLines device.family
          (safeModeAfter config (commands.take index)) index
          command).length =
        if safeModeAfter config (commands.take index) then 1 else 0 := by
    unfold echoLines
    split <;> rfl
  have delayed :
      (delayLines device.family (delayAfter (commands.take index))
          command).length =
        if isDelayed (delayAfter (commands.take index)) command then 1
        else 0 := by
    simp only [delayLines, isDelayed, decide_eq_true_eq]
    split <;> rfl
  refine Outcome.map_eq_ok.mpr ⟨body, written, ?_⟩
  rw [List.length_append, List.length_append, List.length_append, echoed,
    delayed, List.length_singleton]

/-- A program has as many entries as are counted. -/
theorem programLength_of_blocks
    {config : EncoderConfig}
    {script : Script}
    {device : Device}
    {written : List (List String)}
    (made : blocks config device script.commands = .ok written) :
    programLength config script device =
      .ok (entriesOf config script device written).length := by
  have counted :
      (script.commands.zipIdx.mapM fun item =>
          blockLength config device script.commands item.2 item.1) =
        .ok (written.map List.length) := by
    rw [Outcome.mapM_eq_ok, List.forall₂_map_right_iff]
    exact (Outcome.mapM_eq_ok.mp made).imp fun _ _ => blockLength_of_block
  rw [programLength, counted, entriesOf, List.length_append,
    List.length_append, List.length_flatten]
  simp only [Except.map]
  congr 1
  omega

end Stateless

namespace Script

/--
The counts of the lines of a program agree.  The entries that it is made of have
no line feed, so the lines of its text are these entries and an empty one.
Their number is told in the last record of the log and in the report of the
command line, and it is that of the line feeds and the sum over all commands.
-/
structure LinesCounted
    (config : EncoderConfig)
    (script : Script)
    (device : Device)
    (code : String)
    (entries : List String) :
    Prop where
  made : (Encoder.encodeLines config script device).outcome = .ok entries
  unbroken : ∀ entry ∈ entries, Text.Lacks '\n' entry
  lines_eq : Text.lines code = entries ++ [""]
  told :
    (Encoder.encode config script device).records.getLast? =
      some
        ⟨.info,
          "encoded " ++ script.totalCommands.repr ++ " commands for " ++
            device.id ++ " (" ++ entries.length.repr ++ " lines)"⟩
  lineCount_eq : Text.lineCount code = entries.length
  reported :
    ∀ file output,
      (CommandLine.encodeReport file output device script code)[2]? =
        some ("   Output Lines: " ++ entries.length.repr)
  lineFeeds_eq : code.toList.count '\n' = entries.length
  summed :
    Stateless.programLength config script device = .ok entries.length

/--
All counts of the lines of a program agree, if it is made from a script that was
read for a device that is always known.
-/
theorem line_counts_agree
    {text source : String}
    {script : Script}
    (accepted : (read text source).outcome = .ok script)
    {device : Device}
    (isBuiltin : device ∈ Registry.builtin.items)
    (sourceUnbroken : Text.Lacks '\n' source)
    {config : EncoderConfig}
    {code : String}
    (encoded : (Encoder.encode config script device).outcome = .ok code) :
    ∃ entries, LinesCounted config script device code entries := by
  obtain ⟨written, made, cut⟩ :=
    exists_blocks_lines_of_read accepted isBuiltin sourceUnbroken encoded
  have entriesMade :
      (Encoder.encodeLines config script device).outcome =
        .ok (Stateless.entriesOf config script device written) := by
    rw [Stateless.encodeLines_outcome, made]
    rfl
  change
    Text.lines code =
      Stateless.entriesOf config script device written ++ [""] at cut
  obtain ⟨count, lineFeeds⟩ := Text.counts_of_closed cut
  refine ⟨Stateless.entriesOf config script device written, entriesMade, ?_,
    cut, ?_, count, ?_, lineFeeds, Stateless.programLength_of_blocks made⟩
  · intro entry member
    have isLine : entry ∈ Text.lines code := by
      rw [cut]
      exact List.mem_append_left _ member
    exact Text.not_mem_of_mem_lines isLine
  · rw [Stateless.encode_records_of_blocks made, List.getLast?_concat]
    rfl
  · intro file output
    rw [← count]
    rfl

/-- Safe mode is switched on, and then a text is typed. -/
def spokenText :
    Script where
  commands :=
    [⟨.safeMode, 1, "SAFE_MODE ON", ["ON"]⟩,
      ⟨.text, 3, "STRING a", ["a"]⟩]
  source := "keys.txt"
  totalLines := 3

/-- The counts agree where only the second command is echoed. -/
theorem line_counts_agree_spokenText :
    (read "SAFE_MODE ON\n\nSTRING a" "keys.txt").outcome = .ok spokenText ∧
      Device.standard "teensy_4" "Teensy 4.0" .arduino ∈
        Registry.builtin.items ∧
      Text.Lacks '\n' "keys.txt" ∧
      ∃ code entries,
        (Encoder.encode { safeMode := false } spokenText
              (.standard "teensy_4" "Teensy 4.0" .arduino)).outcome =
            .ok code ∧
          LinesCounted { safeMode := false } spokenText
            (.standard "teensy_4" "Teensy 4.0" .arduino) code entries ∧
          entries.length = 35 := by
  have accepted :
      (read "SAFE_MODE ON\n\nSTRING a" "keys.txt").outcome =
        .ok spokenText :=
    rfl
  have isBuiltin :
      Device.standard "teensy_4" "Teensy 4.0" .arduino ∈
        Registry.builtin.items :=
    List.mem_of_getElem? (i := 3) rfl
  have sourceUnbroken : Text.Lacks '\n' "keys.txt" :=
    Text.lacks_ofList (by decide) rfl
  have succeeds :
      Outcome.Succeeds
        (Encoder.encode { safeMode := false } spokenText
          (.standard "teensy_4" "Teensy 4.0" .arduino)).outcome :=
    ⟨_, rfl⟩
  obtain ⟨code, encoded⟩ := succeeds
  obtain ⟨entries, counted⟩ :=
    line_counts_agree accepted isBuiltin sourceUnbroken encoded
  have summed :
      Stateless.programLength { safeMode := false } spokenText
          (.standard "teensy_4" "Teensy 4.0" .arduino) =
        .ok 35 :=
    rfl
  rw [counted.summed] at summed
  exact ⟨accepted, isBuiltin, sourceUnbroken, code, entries, encoded,
    counted, Except.ok.inj summed⟩

end Script

end Keystroke
