import Keystroke.Compilation
import Keystroke.Proofs.Reading
import Keystroke.Proofs.Stateless

namespace Keystroke

/-!
# The layout of a text does not matter

Two texts with the same visible lines may differ in blank lines, in indentation
and in how their lines end.  Their commands differ in the lines they stand on
and in nothing else, and the line of a command reaches the log but never the
program.  So both texts are refused at the same visible line, or fail to be
encoded in the same way, or become the same program, except that a verbose
program tells how many lines its text had.
-/

/-! ## Commands without the line they stand on -/

/-- The command without the line it stands on. -/
def Command.unplaced
    (command : Command) :
    Command :=
  { command with line := 0 }

/-- The entries of a resolved plan are the resolved entries of the plan. -/
theorem Plan.map_entries_resolve
    {KeyType Symbol Fault : Type}
    (lookup : KeyType → Except Fault Symbol)
    (plan : Plan KeyType) :
    (plan.resolve lookup).map Plan.entries =
      plan.entries.mapM (Entry.resolve lookup) := by
  rw [resolve]
  cases plan.entries.mapM (Entry.resolve lookup) <;> rfl

namespace Command

section Unplaced

variable
  (command : Command)

@[simp] theorem kind_unplaced :
    command.unplaced.kind = command.kind :=
  rfl

@[simp] theorem parameters_unplaced :
    command.unplaced.parameters = command.parameters :=
  rfl

@[simp] theorem firstParameter?_unplaced :
    command.unplaced.firstParameter? = command.firstParameter? :=
  rfl

@[simp] theorem fault_unplaced
    (cause : Cause) :
    command.unplaced.fault cause = command.fault cause :=
  rfl

@[simp] theorem required_unplaced
    (what : String) :
    command.unplaced.required what = command.required what := by
  simp [required]

@[simp] theorem duration_unplaced
    (role : DurationRole)
    (parameter? : Option String) :
    command.unplaced.duration role parameter? =
      command.duration role parameter? := by
  simp [duration]

end Unplaced

/-- The line of a command is only for the log. -/
theorem directPlan_unplaced
    (pause : Text.Milliseconds)
    (command : Command) :
    (command.unplaced.directPlan pause).map Plan.entries =
      (command.directPlan pause).map Plan.entries := by
  cases kind : command.kind with
  | custom name =>
      simp [directPlan, kind, customPlan, Except.map]
  | _ =>
      simp [directPlan, kind, delayPlan, textPlan, combinationPlan,
        safeModePlan, attackModePlan, defaultDelayPlan, randomDelayPlan,
        logPlan, validatePlan, branchPlan, loopPlan]

/-- A repetition depends on the plan before it only by its entries. -/
theorem repeatedSteps_congr
    {plan other : Plan KeyName}
    (same : plan.entries = other.entries) :
    repeatedSteps plan = repeatedSteps other := by
  have sameSteps : plan.steps = other.steps := by
    rw [Plan.steps, same, Plan.steps]
  rw [repeatedSteps, sameSteps, repeatedSteps]

/-- A repetition looks at no line either, neither its own nor the other. -/
theorem replayPlan_unplaced
    (pause : Text.Milliseconds)
    (previous? : Option Command)
    (command : Command) :
    (command.unplaced.replayPlan pause (previous?.map unplaced)).map
        Plan.entries =
      (command.replayPlan pause previous?).map Plan.entries := by
  cases required : command.required "count" with
  | error fault =>
      simp [replayPlan, required, bind, Except.bind]
  | ok value =>
      cases reads : Text.integer? (Text.trim value) with
      | none =>
          simp [replayPlan, required, reads, bind, Except.bind]
      | some count =>
          cases previous? with
          | none =>
              simp [replayPlan]
          | some previous =>
              have sameEntries := directPlan_unplaced pause previous
              by_cases low : count < 1
              · simp [replayPlan, required, reads, low, bind, Except.bind]
              by_cases again : previous.kind = .replay
              · simp [replayPlan, required, reads, low, again, bind,
                  Except.bind]
              cases moved : previous.unplaced.directPlan pause with
              | error fault =>
                  rw [moved] at sameEntries
                  simp [replayPlan, required, reads, low, again, bind,
                    Except.bind, moved,
                    Outcome.eq_error_of_map sameEntries.symm]
              | ok plan =>
                  rw [moved] at sameEntries
                  obtain ⟨other, isOther, same⟩ :=
                    Outcome.map_eq_ok.mp sameEntries.symm
                  simp [replayPlan, required, reads, low, again, bind,
                    Except.bind, moved, isOther, pure, Except.pure,
                    Except.map, repeatedSteps_congr same]

/-- The entries of a command's plan do not depend on lines. -/
theorem plan_unplaced
    (pause : Text.Milliseconds)
    (previous? : Option Command)
    (command : Command) :
    (command.unplaced.plan pause (previous?.map unplaced)).map Plan.entries =
      (command.plan pause previous?).map Plan.entries := by
  unfold plan
  rw [kind_unplaced]
  split
  · exact replayPlan_unplaced pause previous? command
  · exact directPlan_unplaced pause command

/-- The entries of a plan for a device are those of the plan, resolved. -/
theorem map_entries_planFor
    (device : Device)
    (pause : Text.Milliseconds)
    (previous? : Option Command)
    (command : Command) :
    (command.planFor device pause previous?).map Plan.entries =
      (command.plan pause previous?).map Plan.entries >>= fun entries =>
        entries.mapM
          (Entry.resolve
            ((command.performed previous?).symbolFor device)) := by
  unfold planFor
  cases command.plan pause previous? with
  | error fault =>
      rfl
  | ok named =>
      exact Plan.map_entries_resolve _ named

/-- Whose steps are performed does not depend on lines. -/
theorem performed_unplaced
    (previous? : Option Command)
    (command : Command) :
    command.unplaced.performed (previous?.map unplaced) =
      (command.performed previous?).unplaced := by
  unfold performed
  rw [kind_unplaced]
  split
  · cases previous? <;> rfl
  · rfl

/-- The entries of a plan for a device do not depend on lines. -/
theorem planFor_unplaced
    (device : Device)
    (pause : Text.Milliseconds)
    (previous? : Option Command)
    (command : Command) :
    (command.unplaced.planFor device pause (previous?.map unplaced)).map
        Plan.entries =
      (command.planFor device pause previous?).map Plan.entries := by
  rw [map_entries_planFor, map_entries_planFor, plan_unplaced,
    performed_unplaced]
  rfl

/-- What the latest command has set does not depend on lines. -/
theorem latest_unplaced
    {Value : Type}
    {set? : Command → Option Value}
    (unaware : ∀ command, set? command.unplaced = set? command)
    (initial : Value)
    (commands : List Command) :
    latest set? initial (commands.map unplaced) =
      latest set? initial commands := by
  have sameSet : set? ∘ unplaced = set? :=
    funext unaware
  rw [latest, latest, ← List.map_reverse, List.findSome?_map, sameSet]

end Command

namespace Stateless

section Unplaced

variable
  (config : EncoderConfig)
  (device : Device)

/-- The lines of a command in the program do not depend on lines of the text. -/
theorem commandLines_unplaced
    (pause : Text.Milliseconds)
    (verbose : Bool)
    (previous? : Option Command)
    (command : Command) :
    commandLines device pause verbose (previous?.map Command.unplaced)
        command.unplaced =
      commandLines device pause verbose previous? command := by
  have written
      (planned : Except EncodeFault (Plan String)) :
      (planned.map fun plan =>
          (plan.lines device.family verbose).map device.family.bodyLine) =
        (planned.map Plan.entries).map fun entries =>
          (entries.flatMap (Entry.lines device.family verbose)).map
            device.family.bodyLine := by
    cases planned <;> rfl
  rw [commandLines, commandLines, written, written,
    Command.planFor_unplaced]

/-- The safe mode after some commands does not depend on lines. -/
theorem safeModeAfter_unplaced
    (earlier : List Command) :
    safeModeAfter config (earlier.map Command.unplaced) =
      safeModeAfter config earlier :=
  Command.latest_unplaced (fun _ => rfl) _ _

/-- The default delay after some commands does not depend on lines. -/
theorem delayAfter_unplaced
    (earlier : List Command) :
    delayAfter (earlier.map Command.unplaced) = delayAfter earlier :=
  Command.latest_unplaced (fun _ => rfl) _ _

/-- The block of a command does not depend on lines. -/
theorem block_unplaced
    (commands : List Command)
    (index : Nat)
    (command : Command) :
    block config device (commands.map Command.unplaced) index
        command.unplaced =
      block config device commands index command := by
  simp only [block, ← List.map_take, safeModeAfter_unplaced,
    delayAfter_unplaced, List.getLast?_map, commandLines_unplaced]
  rfl

/-- The blocks of commands do not depend on the lines they stand on. -/
theorem blocks_unplaced
    (commands : List Command) :
    blocks config device (commands.map Command.unplaced) =
      blocks config device commands := by
  simp only [blocks, List.zipIdx_map, List.mapM_map, Function.comp_def,
    Prod.map, id_eq, block_unplaced]

end Unplaced

end Stateless

/-! ## What a header tells about a script -/

/-- A part of a list depends on a value, and nothing else in it does. -/
def Encloses
    {Value : Type}
    (part entries : Value → List String) :
    Prop :=
  ∃ before after,
    ∀ value, entries value = before ++ part value ++ after

namespace Encloses

variable
  {Value : Type}
  {part entries : Value → List String}

/-- A part encloses itself. -/
theorem refl :
    Encloses part part :=
  ⟨[], [], fun value => by simp⟩

/-- Further entries in front depend on nothing. -/
theorem append_left
    (encloses : Encloses part entries)
    (front : List String) :
    Encloses part fun value => front ++ entries value := by
  obtain ⟨before, after, shape⟩ := encloses
  exact ⟨front ++ before, after, fun value => by simp [shape]⟩

/-- Further entries behind depend on nothing. -/
theorem append_right
    (encloses : Encloses part entries)
    (back : List String) :
    Encloses part fun value => entries value ++ back := by
  obtain ⟨before, after, shape⟩ := encloses
  exact ⟨before, after ++ back, fun value => by simp [shape]⟩

end Encloses

/-- One entry of a list depends on a number, and nothing else in it does. -/
def ShowsNumber
    (entry : Nat → String)
    (entries : Nat → List String) :
    Prop :=
  ∃ before after,
    ∀ number, entries number = before ++ entry number :: after

namespace Family

/-- A verbose header tells about the script in one place. -/
theorem header_encloses
    (family : Family)
    (name : String)
    (startupDelay : Text.Milliseconds) :
    Encloses (CodeNotes.information family.comment) fun summary =>
      family.header true name summary startupDelay := by
  have information :
      Encloses (CodeNotes.information family.comment)
        (CodeNotes.information family.comment) :=
    .refl
  cases family with
  | circuitPython =>
      simp only [header, CircuitPython.header, ↓reduceIte]
      exact (((((information.append_left _).append_right _).append_left
        _).append_right _).append_right _).append_right _
  | arduino =>
      simp only [header, Arduino.header, ↓reduceIte]
      exact (((((((information.append_right _).append_left _).append_right
        _).append_right _).append_right _).append_right _).append_right _)

/-- The comment that tells how many lines a text had. -/
def totalLinesComment
    (family : Family)
    (totalLines : Nat) :
    String :=
  family.comment ("Total Lines: " ++ totalLines.repr)

/-- A verbose header tells the number of lines in one comment. -/
theorem header_showsNumber
    (family : Family)
    (name source : String)
    (totalCommands : Nat)
    (startupDelay : Text.Milliseconds) :
    ShowsNumber family.totalLinesComment fun totalLines =>
      family.header true name ⟨source, totalCommands, totalLines⟩
        startupDelay := by
  obtain ⟨before, after, shape⟩ := family.header_encloses name startupDelay
  refine ⟨before ++
      [family.comment "Script Information:",
        family.comment ("Source: " ++ source),
        family.comment ("Total Commands: " ++ totalCommands.repr)],
    after, fun totalLines => ?_⟩
  simp [shape, CodeNotes.information, totalLinesComment]

/-- A quiet header tells nothing about the script. -/
theorem header_quiet
    (family : Family)
    (name : String)
    (first second : Script.Summary)
    (startupDelay : Text.Milliseconds) :
    family.header false name first startupDelay =
      family.header false name second startupDelay := by
  cases family with
  | circuitPython =>
      simp [header, CircuitPython.header]
  | arduino =>
      simp [header, Arduino.header]

end Family

/-! ## Two texts with the same visible lines -/

namespace Script

/--
Visible lines that differ in their numbers only are refused at the same place,
or they are read as commands that differ in their lines only.
-/
theorem readItems_of_same_lines
    (source : String)
    {items others : List (Nat × String)}
    (same : items.map Prod.snd = others.map Prod.snd) :
    (∃ (index number otherNumber : Nat) (line : String),
      items[index]? = some (number, line) ∧
        others[index]? = some (otherNumber, line) ∧
        readItems source items = .error (refusal source number line) ∧
        readItems source others =
          .error (refusal source otherNumber line)) ∨
      ∃ commands otherCommands,
        readItems source items = .ok commands ∧
        readItems source others = .ok otherCommands ∧
        commands.map Command.unplaced =
          otherCommands.map Command.unplaced := by
  induction items generalizing others with
  | nil =>
      rw [List.map_nil, List.nil_eq, List.map_eq_nil_iff] at same
      subst same
      exact .inr ⟨[], [], rfl, rfl, rfl⟩
  | cons item rest inductionHypothesis =>
      cases others with
      | nil =>
          cases same
      | cons other otherRest =>
          obtain ⟨number, line⟩ := item
          obtain ⟨otherNumber, otherLine⟩ := other
          obtain ⟨sameLine, sameRest⟩ := List.cons.inj same
          simp only at sameLine
          subst sameLine
          simp only [readItems_cons]
          cases found : Grammar.matchLine? line with
          | none =>
              left
              refine ⟨0, number, otherNumber, line, rfl, rfl, ?_, ?_⟩
              · rw [readLine_eq_error.mpr ⟨found, rfl⟩]
                rfl
              · rw [readLine_eq_error.mpr ⟨found, rfl⟩]
                rfl
          | some accepted =>
              obtain ⟨rule, reading⟩ := accepted
              have reads
                  (place : Nat) :
                  (readLine source place line).outcome =
                    .ok ⟨reading.kind, place, line, reading.parameters⟩ := by
                rw [readLine, found]
                rfl
              rw [reads, reads]
              rcases inductionHypothesis sameRest with
                ⟨index, _, _, refused, atIndex, otherAtIndex, failed,
                  otherFailed⟩ |
                ⟨commands, otherCommands, done, otherDone, sameCommands⟩
              · left
                refine ⟨index + 1, _, _, refused, atIndex, otherAtIndex,
                  ?_, ?_⟩
                · rw [failed]
                  rfl
                · rw [otherFailed]
                  rfl
              · right
                rw [done, otherDone]
                refine ⟨_, _, rfl, rfl, ?_⟩
                rw [List.map_cons, List.map_cons, sameCommands]
                rfl

/-- Texts with the same contents are refused alike or read alike. -/
theorem read_of_same_contents
    {first second : String}
    (same : contents first = contents second)
    (source : String) :
    (∃ (index firstNumber secondNumber : Nat) (line : String),
      (visibleLines first)[index]? = some (firstNumber, line) ∧
        (visibleLines second)[index]? = some (secondNumber, line) ∧
        (read first source).outcome =
          .error (refusal source firstNumber line) ∧
        (read second source).outcome =
          .error (refusal source secondNumber line)) ∨
      ∃ firstCommands secondCommands,
        (read first source).outcome =
          .ok ⟨firstCommands, source, (Text.lines first).length⟩ ∧
        (read second source).outcome =
          .ok ⟨secondCommands, source, (Text.lines second).length⟩ ∧
        firstCommands.map Command.unplaced =
          secondCommands.map Command.unplaced := by
  rw [← map_snd_visibleLines, ← map_snd_visibleLines] at same
  rw [read_outcome, read_outcome]
  rcases readItems_of_same_lines source same with
    ⟨index, firstNumber, secondNumber, line, atFirst, atSecond, failed,
      otherFailed⟩ |
    ⟨firstCommands, secondCommands, done, otherDone, sameCommands⟩
  · rw [failed, otherFailed]
    exact .inl ⟨index, firstNumber, secondNumber, line, atFirst, atSecond,
      rfl, rfl⟩
  · rw [done, otherDone]
    exact .inr ⟨firstCommands, secondCommands, rfl, rfl, sameCommands⟩

end Script

/--
Two programs for the same commands.  If safe mode is off at first they are the
same.  Otherwise their headers tell, in one comment, how many lines each text
had, and nothing else in them differs.
-/
inductive SameProgramBut
    (config : EncoderConfig)
    (device : Device)
    (source : String)
    (firstTotal secondTotal : Nat) :
    String → String → Prop where
  | quiet
      {code : String} :
      config.safeMode = false →
      SameProgramBut config device source firstTotal secondTotal code code
  | verbose
      {totalCommands : Nat}
      {before after rest : List String} :
      config.safeMode = true →
      (∀ totalLines,
        device.family.header true device.name
            ⟨source, totalCommands, totalLines⟩ config.startupDelay =
          before ++ device.family.totalLinesComment totalLines :: after) →
      SameProgramBut config device source firstTotal secondTotal
        ("\n".intercalate
            (before ++ device.family.totalLinesComment firstTotal ::
              (after ++ rest)) ++
          "\n")
        ("\n".intercalate
            (before ++ device.family.totalLinesComment secondTotal ::
              (after ++ rest)) ++
          "\n")

namespace Stateless

/-- Scripts whose commands differ in their lines only have the same program. -/
theorem sameProgramBut_of_same_commands
    (config : EncoderConfig)
    (device : Device)
    (source : String)
    {firstCommands secondCommands : List Command}
    (same :
      firstCommands.map Command.unplaced =
        secondCommands.map Command.unplaced)
    (firstTotal secondTotal : Nat)
    (blocks : List (List String)) :
    SameProgramBut config device source firstTotal secondTotal
      (programOf config ⟨firstCommands, source, firstTotal⟩ device blocks)
      (programOf config ⟨secondCommands, source, secondTotal⟩ device
        blocks) := by
  have sameFooter :
      safeModeAfter config firstCommands =
        safeModeAfter config secondCommands := by
    rw [← safeModeAfter_unplaced, same, safeModeAfter_unplaced]
  have sameCount : firstCommands.length = secondCommands.length := by
    simpa using congrArg List.length same
  simp only [programOf, sameFooter]
  cases safeMode : config.safeMode with
  | false =>
      rw [device.family.header_quiet device.name
        (Script.summary ⟨firstCommands, source, firstTotal⟩)
        (Script.summary ⟨secondCommands, source, secondTotal⟩)]
      exact .quiet safeMode
  | true =>
      obtain ⟨before, after, shape⟩ :=
        device.family.header_showsNumber device.name source
          secondCommands.length config.startupDelay
      simp only [Script.summary, Script.totalCommands, sameCount, shape,
        List.append_assoc, List.cons_append]
      exact .verbose safeMode shape

end Stateless

namespace Compilation

/-- Compiling reads a text and encodes the script. -/
theorem compile_outcome
    (text source : String)
    (device : Device)
    (config : EncoderConfig) :
    (compile text source device config).outcome =
      (Script.read text source).outcome >>= fun script =>
        (Encoder.encode config script device).outcome.map fun code =>
          { code, warnings := script.advice ++ device.advice script } := by
  simp only [compile, Run.outcome_bind, Run.outcome_write, Run.outcome_pure]
  cases (Script.read text source).outcome with
  | error failure =>
      rfl
  | ok script =>
      simp only [bind, Except.bind]
      cases (Encoder.encode config script device).outcome <;> rfl

/-- A text is compiled if it is read and its script is encoded. -/
theorem compile_eq_ok
    {text source : String}
    {device : Device}
    {config : EncoderConfig}
    {compilation : Compilation} :
    (compile text source device config).outcome = .ok compilation ↔
      ∃ script,
        (Script.read text source).outcome = .ok script ∧
          (Encoder.encode config script device).outcome =
            .ok compilation.code ∧
          compilation.warnings = script.advice ++ device.advice script := by
  rw [compile_outcome, Outcome.bind_eq_ok]
  simp only [Outcome.map_eq_ok]
  constructor
  · rintro ⟨script, read, code, encoded, rfl⟩
    exact ⟨script, read, encoded, rfl⟩
  · rintro ⟨script, read, encoded, warnings⟩
    refine ⟨script, read, compilation.code, encoded, ?_⟩
    rw [← warnings]

/--
How two compilations correspond.  Both texts are refused, at corresponding
visible lines and each with its own number; or both are read and cannot be
encoded, for the same reason; or both become programs, which are the same up to
the number of lines that a verbose program tells.
-/
inductive Corresponds
    (first second source : String)
    (device : Device)
    (config : EncoderConfig) :
    Prop where
  | refused
      {index firstNumber secondNumber : Nat}
      {line : String} :
      (Script.visibleLines first)[index]? = some (firstNumber, line) →
      (Script.visibleLines second)[index]? = some (secondNumber, line) →
      (Script.read first source).outcome =
        .error (Script.refusal source firstNumber line) →
      (Script.read second source).outcome =
        .error (Script.refusal source secondNumber line) →
      (compile first source device config).outcome =
        .error (Script.refusal source firstNumber line) →
      (compile second source device config).outcome =
        .error (Script.refusal source secondNumber line) →
      Corresponds first second source device config
  | unencodable
      {message : String} :
      Outcome.Succeeds (Script.read first source).outcome →
      Outcome.Succeeds (Script.read second source).outcome →
      (compile first source device config).outcome =
        .error (.encode message) →
      (compile second source device config).outcome =
        .error (.encode message) →
      Corresponds first second source device config
  | compiled
      {firstResult secondResult : Compilation} :
      Outcome.Succeeds (Script.read first source).outcome →
      Outcome.Succeeds (Script.read second source).outcome →
      (compile first source device config).outcome = .ok firstResult →
      (compile second source device config).outcome = .ok secondResult →
      SameProgramBut config device source (Text.lines first).length
        (Text.lines second).length firstResult.code secondResult.code →
      Corresponds first second source device config

/-- Texts that differ in their layout only are compiled alike. -/
theorem compile_ignores_layout
    {first second : String}
    (same : Script.contents first = Script.contents second)
    (source : String)
    (device : Device)
    (config : EncoderConfig) :
    Corresponds first second source device config := by
  rcases Script.read_of_same_contents same source with
    ⟨index, firstNumber, secondNumber, line, atFirst, atSecond, failed,
      otherFailed⟩ |
    ⟨firstCommands, secondCommands, done, otherDone, sameCommands⟩
  · refine .refused atFirst atSecond failed otherFailed ?_ ?_
    · rw [compile_outcome, failed]
      rfl
    · rw [compile_outcome, otherFailed]
      rfl
  · have sameBlocks :
        Stateless.blocks config device firstCommands =
          Stateless.blocks config device secondCommands := by
      rw [← Stateless.blocks_unplaced, sameCommands,
        Stateless.blocks_unplaced]
    have firstOutcome :=
      compile_outcome first source device config
    have secondOutcome :=
      compile_outcome second source device config
    rw [done] at firstOutcome
    rw [otherDone] at secondOutcome
    simp only [bind, Except.bind, Stateless.encode_outcome,
      Stateless.program, sameBlocks] at firstOutcome secondOutcome
    cases made : Stateless.blocks config device secondCommands with
    | error fault =>
        rw [made] at firstOutcome secondOutcome
        exact .unencodable ⟨_, done⟩ ⟨_, otherDone⟩ firstOutcome
          secondOutcome
    | ok blocks =>
        rw [made] at firstOutcome secondOutcome
        exact .compiled ⟨_, done⟩ ⟨_, otherDone⟩ firstOutcome secondOutcome
          (Stateless.sameProgramBut_of_same_commands config device source
            sameCommands _ _ blocks)

/-- Blank lines, indentation and returned carriages change nothing. -/
theorem compile_ignores_layout_of_indented_text :
    Script.contents "STRING a b\nENTER" =
        Script.contents "\r\n\tSTRING a b  \r\n\r\n  ENTER\r\n" ∧
      Corresponds "STRING a b\nENTER"
        "\r\n\tSTRING a b  \r\n\r\n  ENTER\r\n" "notes.txt"
        (Device.standard "board" "Board" .arduino) {} :=
  have same :
      Script.contents "STRING a b\nENTER" =
        Script.contents "\r\n\tSTRING a b  \r\n\r\n  ENTER\r\n" := by
    decide +kernel
  ⟨same, compile_ignores_layout same _ _ _⟩

end Compilation

end Keystroke
