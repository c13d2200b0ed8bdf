import Keystroke.Proofs.Performance

namespace Keystroke

/-!
# What a repetition repeats

A repetition plans the command before it once more, in a later context.  What
it repeats is still what the command has written in its own block: only a
command that switches safe mode changes how verbose the program is, and such a
command has no notes.  So a loop of a repetition holds the very lines of the
block before it that are no comments.
-/

/-! ## Steps without notes -/

/-- The statements of a step without a note do not depend on verbosity. -/
theorem Step.statements_of_no_note
    (family : Family)
    {step : Step String}
    (noNote : step.note? = none)
    (verbose other : Bool) :
    step.statements family verbose = step.statements family other := by
  simp only [statements, noNote]

namespace Command

/-- A command that switches safe mode performs no step with a note. -/
theorem Planned.no_switch_or_no_notes
    {pause : Text.Milliseconds}
    {command : Command}
    {plan : Plan KeyName}
    (planned : Planned pause command plan) :
    command.switch? = none ∨ ∀ step ∈ plan.steps, step.note? = none := by
  cases planned with
  | safeModeOn | safeModeOff | attackModeOn | attackModeOff =>
      refine .inr fun step member => ?_
      rw [List.mem_singleton.mp member]
      rfl
  | attackModeKeyboard | attackModeStorage | attackModeOther =>
      exact .inr fun step member => nomatch member
  | comment kind =>
      rcases kind with kind | kind <;> exact .inl (by simp [switch?, kind])
  | key kind | delay kind | text kind | combination kind | pause kind
  | defaultDelay kind | randomDelay kind | log kind | validate kind
  | branch kind | otherwise kind | endBranch kind | loop kind | endLoop kind
  | custom kind =>
      exact .inl (by simp [switch?, kind])

end Command

namespace Stateless

/-- The statements of a command are the same just after the command. -/
theorem bodyStatements_after
    (config : EncoderConfig)
    (family : Family)
    (symbol : KeyName → String)
    (earlier : List Command)
    {command : Command}
    {plan : Plan KeyName}
    (planned : Command.Planned config.pause command plan) :
    Deed.bodyStatements family symbol
        (safeModeAfter config (earlier ++ [command]))
        (plan.steps.map .once) =
      Deed.bodyStatements family symbol (safeModeAfter config earlier)
        (plan.steps.map .once) := by
  rcases planned.no_switch_or_no_notes with noSwitch | noNotes
  · rw [safeModeAfter, Command.latest_append_singleton, noSwitch]
    rfl
  · rw [Deed.bodyStatements_once, Deed.bodyStatements_once]
    refine congrArg (List.map _) (List.flatMap_congr fun step member => ?_)
    obtain ⟨named, namedMember, rfl⟩ := List.mem_map.mp member
    exact Step.statements_of_no_note family (noNotes named namedMember) _ _

end Stateless

/-! ## The lines of a repetition -/

/-- The statement that does nothing. -/
def Family.idle :
    Family → String
  | .circuitPython => "pass"
  | .arduino => "(void)0;"

/-- The lines of a loop over steps, after a remark. -/
theorem Plan.lines_loop
    (family : Family)
    (verbose : Bool)
    (remark : String)
    (count : UInt64)
    {steps : List (Step String)}
    (inBounds : ∀ step ∈ steps, step.action.InBounds)
    (change : Change)
    (notices : List Record) :
    (Plan.lines family verbose
        { entries := [.remark remark, .loop count steps]
          change := change
          notices := notices }).map family.bodyLine =
      [family.indentation ++ family.comment remark,
          family.indentation ++ family.loopStart count] ++
        ((steps.flatMap (Step.statements family verbose)).map fun text =>
          family.indentation ++ text).map
            (fun text => family.indentation ++ text) ++
        family.loopEnd?.toList.map fun text => family.indentation ++ text := by
  have body :
      (((steps.flatMap (Step.lines family verbose)).filter
          CodeLine.isStatement).map CodeLine.nested).map family.bodyLine =
        ((steps.flatMap (Step.statements family verbose)).map fun text =>
          family.indentation ++ text).map fun text =>
            family.indentation ++ text := by
    rw [← Step.statementTexts_flatMap_lines family verbose inBounds,
      ← Family.statementTexts_map_nested, ← Family.map_bodyLine_filter,
      List.filter_map]
    rfl
  have last :
      (family.loopEnd?.toList.map CodeLine.statement).map family.bodyLine =
        family.loopEnd?.toList.map fun text => family.indentation ++ text := by
    rw [List.map_map]
    exact List.map_congr_left fun text _ =>
      Family.bodyLine_statement family text
  simp only [lines, List.flatMap_cons, List.flatMap_nil, List.append_nil,
    Entry.lines, List.map_append, body, last, List.map_cons, List.map_nil,
    Family.commentLine, Family.bodyLine_comment, Family.bodyLine_statement]
  rfl

namespace Command

section Planning

variable
  {device : Device}
  {pause : Text.Milliseconds}
  {previous? : Option Command}
  {command : Command}

/-- A command that repeats nothing has a plan in the list. -/
theorem exists_planned_of_planFor
    {plan : Plan String}
    (notReplay : command.kind ≠ .replay)
    (done : command.planFor device pause previous? = .ok plan) :
    ∃ named,
      Planned pause command named ∧
        named.UsesOnly (KeyName.Known device.Knows) ∧
        plan = named.mapKey device.symbol := by
  obtain ⟨named, namedPlan, resolves⟩ := planFor_eq_ok.mp done
  have uses := succeeds_resolve_symbolFor.mp ⟨plan, resolves⟩
  have isPlan :=
    Plan.eq_mapKey_of_resolve (fun _ _ => eq_symbol_of_symbolFor) resolves
  rcases plan_eq_ok.mp namedPlan with planned | replayed
  · exact ⟨named, planned, uses, isPlan⟩
  · cases replayed with
    | replay isReplay =>
        exact (notReplay isReplay).elim

/-- The plan of a repetition has the steps that are repeated in a loop. -/
def repetition
    (count : Int)
    (repeated : Plan KeyName) :
    Plan KeyName where
  entries :=
    [.remark ("REPEAT: Repeating last command " ++ count.repr ++ " times"),
      .loop (UInt64.ofNat count.toNat) (repeatedSteps repeated)]
  change := .nothing
  notices := repeated.notices

/-- A command that was planned for a device can be planned again in a loop. -/
theorem planFor_replay
    {previous : Command}
    {repeated : Plan KeyName}
    {value : String}
    {count : Int}
    (isReplay : command.kind = .replay)
    (parameter : command.firstParameter? = some value)
    (reads : Text.integer? (Text.trim value) = some count)
    (atLeastOne : 1 ≤ count)
    (planned : Planned pause previous repeated)
    (uses : repeated.UsesOnly (KeyName.Known device.Knows)) :
    command.planFor device pause (some previous) =
      .ok ((repetition count repeated).mapKey device.symbol) := by
  have namedPlan :
      command.plan pause (some previous) = .ok (repetition count repeated) :=
    plan_eq_ok.mpr
      (.inr (.replay isReplay parameter reads atLeastOne rfl planned))
  have loopUses :
      (repetition count repeated).UsesOnly (KeyName.Known device.Knows) :=
    usesOnly_loop uses _ _ _
  have succeeds :
      Outcome.Succeeds
        ((repetition count repeated).resolve (command.symbolFor device)) :=
    succeeds_resolve_symbolFor.mpr loopUses
  obtain ⟨resolved, resolves⟩ := succeeds
  rw [planFor_eq_ok]
  refine ⟨_, namedPlan, ?_⟩
  rw [resolves,
    Plan.eq_mapKey_of_resolve (fun _ _ => eq_symbol_of_symbolFor) resolves]

end Planning

end Command

namespace Stateless

/--
The lines of a repetition: a remark, and a loop around the given lines, or
around an idle statement if there are none.
-/
def replayLines
    (family : Family)
    (count : Int)
    (kept : List String) :
    List String :=
  [family.indentation ++
        family.comment
          ("REPEAT: Repeating last command " ++ count.repr ++ " times"),
      family.indentation ++
        family.loopStart (UInt64.ofNat count.toNat)] ++
    ((if kept.isEmpty then
        [family.indentation ++ family.idle]
      else
        kept).map fun text => family.indentation ++ text) ++
    family.loopEnd?.toList.map fun text => family.indentation ++ text

/-- A loop over a plan in the list writes the statements of the plan again. -/
theorem lines_repetition
    {pause : Text.Milliseconds}
    {command : Command}
    {plan : Plan KeyName}
    (planned : Command.Planned pause command plan)
    (family : Family)
    (symbol : KeyName → String)
    (verbose : Bool)
    (count : Int) :
    (((Command.repetition count plan).mapKey symbol).lines family
        verbose).map family.bodyLine =
      replayLines family count
        (Deed.bodyStatements family symbol verbose
          (plan.steps.map .once)) := by
  have inBounds :
      ∀ step ∈ (Command.repeatedSteps plan).map (Step.mapKey symbol),
        step.action.InBounds := by
    intro step member
    obtain ⟨named, namedMember, rfl⟩ := List.mem_map.mp member
    exact Step.inBounds_mapKey
      (planned.inBounds_repeatedSteps named namedMember) symbol
  rw [Command.repetition, Plan.mapKey]
  simp only [List.map_cons, List.map_nil, Entry.mapKey]
  rw [Plan.lines_loop family verbose _ _ inBounds, replayLines,
    Deed.bodyStatements_once, Command.repeatedSteps]
  -- A step is never written as nothing, so no lines are left of no steps only.
  cases plan.steps with
  | nil =>
      cases family <;> cases verbose <;> rfl
  | cons step steps =>
      have kept :
          (((step :: steps).map (Step.mapKey symbol)).flatMap
              (Step.statements family verbose)).map
              (fun text => family.indentation ++ text) ≠
            [] := by
        simp [Step.statements_ne_nil]
      rw [if_neg (mt List.isEmpty_iff.mp kept)]
      rfl

/-- The lines of a command that repeats nothing are those of its plan. -/
theorem commandLines_of_planFor
    {device : Device}
    {pause : Text.Milliseconds}
    {previous? : Option Command}
    {command : Command}
    {plan : Plan String}
    (notReplay : command.kind ≠ .replay)
    (planned : command.planFor device pause previous? = .ok plan)
    (other? : Option Command)
    (verbose : Bool) :
    commandLines device pause verbose other? command =
      .ok ((plan.lines device.family verbose).map
        device.family.bodyLine) := by
  rw [commandLines_of_ne_replay device pause verbose other? previous?
    notReplay, commandLines, planned]
  rfl

/-! ## Runs -/

/-- A run over commands in two parts is a run over the one, then the other. -/
theorem encodeCommands_append_outcome
    (config : EncoderConfig)
    (device : Device)
    (position : Nat)
    (context : Context)
    (first second : List Command) :
    (Encoder.encodeCommands config device position context
        (first ++ second)).outcome =
      (Encoder.encodeCommands config device position context
          first).outcome >>= fun (lines, reached) =>
        (Encoder.encodeCommands config device (position + first.length)
            reached second).outcome.map fun (rest, final) =>
          (lines ++ rest, final) := by
  -- The position and the context move on with every command of the first part.
  induction first generalizing position context with
  | nil =>
      simp only [List.nil_append, List.length_nil, Nat.add_zero,
        Encoder.encodeCommands, Run.outcome_pure, bind, Except.bind]
      cases (Encoder.encodeCommands config device position context
          second).outcome <;> rfl
  | cons command rest inductionHypothesis =>
      rw [List.cons_append, encodeCommands_cons_outcome,
        encodeCommands_cons_outcome]
      cases command.planFor device config.pause context.previous? with
      | error fault =>
          rfl
      | ok plan =>
          have positions :
              position + 1 + rest.length =
                position + (command :: rest).length := by
            rw [List.length_cons]
            omega
          simp only [bind, Except.bind, inductionHypothesis, positions]
          cases (Encoder.encodeCommands config device (position + 1)
              ((context.apply plan.change).withPrevious command)
              rest).outcome with
          | error fault =>
              rfl
          | ok reached =>
              simp only [Except.map]
              cases (Encoder.encodeCommands config device
                  (position + (command :: rest).length) reached.2
                  second).outcome <;>
                simp [List.append_assoc]

section Reached

variable
  {config : EncoderConfig}
  {device : Device}
  {earlier : List Command}
  {command : Command}
  {plan : Plan String}
  {lines : List String}
  {context : Context}

/-- The block that a run writes for a command with a plan. -/
theorem encoderBlock_of_planFor
    {pause : Text.Milliseconds}
    {previous? : Option Command}
    (planned : command.planFor device pause previous? = .ok plan)
    (context : Context)
    (index : Nat) :
    Encoder.block device.family context (index + 1) command plan =
      echoLines device.family context.safeMode index command ++
        (plan.lines device.family context.safeMode).map
          device.family.bodyLine ++
        delayLines device.family context.defaultDelay command ++
        [""] := by
  rw [encoderBlock_eq, echo_lines, Command.planFor_change planned,
    trailingDelay_lines]

/-- The context that a run from the start has reached. -/
theorem eq_after_of_encodeCommands
    (reached :
      (Encoder.encodeCommands config device 1 (.initial config.safeMode)
          earlier).outcome =
        .ok (lines, context)) :
    context = .after config.safeMode earlier := by
  have run := encodeCommands_outcome config device [] earlier
  rw [Context.after_nil] at run
  rw [List.length_nil, Nat.zero_add, reached] at run
  obtain ⟨_, _, shape⟩ := Outcome.map_eq_ok.mp run.symm
  exact (Prod.mk.inj shape).2.symm

/-- A run that has reached a command with a plan writes its block and goes on. -/
theorem encodeCommands_next
    (reached :
      (Encoder.encodeCommands config device 1 (.initial config.safeMode)
          earlier).outcome =
        .ok (lines, context))
    (planned :
      command.planFor device config.pause context.previous? = .ok plan)
    (later : List Command) :
    (Encoder.encodeCommands config device 1 (.initial config.safeMode)
        (earlier ++ command :: later)).outcome =
      (Encoder.encodeCommands config device (earlier.length + 2)
          ((context.apply plan.change).withPrevious command)
          later).outcome.map fun (rest, final) =>
        (lines ++
            (echoLines device.family context.safeMode earlier.length
                command ++
              (plan.lines device.family context.safeMode).map
                device.family.bodyLine ++
              delayLines device.family context.defaultDelay command ++
              [""]) ++
            rest,
          final) := by
  rw [encodeCommands_append_outcome, reached]
  simp only [bind, Except.bind]
  rw [encodeCommands_cons_outcome, planned, Nat.add_comm 1]
  simp only [bind, Except.bind, encoderBlock_of_planFor planned]
  cases (Encoder.encodeCommands config device (earlier.length + 1 + 1)
      ((context.apply plan.change).withPrevious command) later).outcome with
  | error fault =>
      rfl
  | ok final =>
      simp only [Except.map, List.append_assoc]

/-- The last block of a run is that of the last command. -/
theorem exists_last_block
    (reached :
      (Encoder.encodeCommands config device 1 (.initial config.safeMode)
          (earlier ++ [command])).outcome =
        .ok (lines, context)) :
    ∃ before plan,
      (Encoder.encodeCommands config device 1 (.initial config.safeMode)
            earlier).outcome =
          .ok (before, .after config.safeMode earlier) ∧
        command.planFor device config.pause earlier.getLast? = .ok plan ∧
        lines =
          before ++
            (echoLines device.family (safeModeAfter config earlier)
                earlier.length command ++
              (plan.lines device.family (safeModeAfter config earlier)).map
                device.family.bodyLine ++
              delayLines device.family (delayAfter earlier) command ++
              [""]) := by
  have split := reached
  rw [encodeCommands_append_outcome, Outcome.bind_eq_ok] at split
  obtain ⟨⟨before, start⟩, ran, last⟩ := split
  have isStart := eq_after_of_encodeCommands ran
  subst isStart
  obtain ⟨_, stepped, _⟩ := Outcome.map_eq_ok.mp last
  rw [encodeCommands_cons_outcome, Outcome.bind_eq_ok] at stepped
  obtain ⟨plan, planned, _⟩ := stepped
  refine ⟨before, plan, ran, planned, ?_⟩
  rw [encodeCommands_next ran planned []] at reached
  have shape := (Prod.mk.inj (Except.ok.inj reached)).1
  rw [List.append_nil] at shape
  exact shape.symm

/--
A repetition in a run, and the command before it.  That command has written its
lines in a block of its own, the last one that the run has reached.  In the
context that is reached it can be encoded once more, and the lines that are no
comments are the same as before; they are all the statements of its deeds.  The
block of the repetition loops over these lines, and the run goes on in the same
context, except for the command that comes before the next.
-/
structure Replays
    (config : EncoderConfig)
    (device : Device)
    (earlier : List Command)
    (previous command : Command)
    (count : Int)
    (lines : List String)
    (context : Context)
    (own : List String) :
    Prop where
  ownLines :
    commandLines device config.pause (safeModeAfter config earlier)
        earlier.getLast? previous =
      .ok own
  ownBlock :
    ∃ before start,
      (Encoder.encodeCommands config device 1 (.initial config.safeMode)
            earlier).outcome =
          .ok (before, start) ∧
        lines =
          before ++
            (echoLines device.family (safeModeAfter config earlier)
                earlier.length previous ++
              own ++
              delayLines device.family (delayAfter earlier) previous ++
              [""])
  encodedAgain :
    ∃ again,
      commandLines device config.pause context.safeMode context.previous?
            previous =
          .ok again ∧
        again.filter (fun text => !device.family.isComment text) =
          own.filter fun text => !device.family.isComment text
  complete :
    own.filter (fun text => !device.family.isComment text) =
      Deed.bodyStatements device.family device.symbol
        (safeModeAfter config earlier)
        (previous.deeds config.pause earlier.getLast?)
  goesOn :
    ∀ later,
      (Encoder.encodeCommands config device 1 (.initial config.safeMode)
          (earlier ++ previous :: command :: later)).outcome =
        (Encoder.encodeCommands config device (earlier.length + 3)
            { context with previous? := some command }
            later).outcome.map fun (rest, final) =>
          (lines ++
              (echoLines device.family context.safeMode (earlier.length + 1)
                  command ++
                replayLines device.family count
                  (own.filter fun text => !device.family.isComment text) ++
                delayLines device.family context.defaultDelay command ++
                [""]) ++
              rest,
            final)

/--
A repetition repeats exactly what was just written.  If a run has reached a
command that repeats the one before it, and the count is at least one and the
command before it is no repetition, then the repetition cannot fail.
-/
theorem encodeCommands_replays_previous
    {previous : Command}
    {value : String}
    {count : Int}
    (reached :
      (Encoder.encodeCommands config device 1 (.initial config.safeMode)
          (earlier ++ [previous])).outcome =
        .ok (lines, context))
    (isReplay : command.kind = .replay)
    (parameter : command.firstParameter? = some value)
    (reads : Text.integer? (Text.trim value) = some count)
    (atLeastOne : 1 ≤ count)
    (notReplay : previous.kind ≠ .replay) :
    ∃ own,
      Replays config device earlier previous command count lines context
        own := by
  obtain ⟨before, plan, ran, planFor, isLines⟩ := exists_last_block reached
  obtain ⟨named, planned, uses, rfl⟩ :=
    Command.exists_planned_of_planFor notReplay planFor
  have isContext := eq_after_of_encodeCommands reached
  have isPrevious : context.previous? = some previous := by
    rw [isContext]
    exact List.getLast?_concat
  have kept
      (verbose : Bool) :
      (((named.mapKey device.symbol).lines device.family verbose).map
          device.family.bodyLine).filter
          (fun text => !device.family.isComment text) =
        Deed.bodyStatements device.family device.symbol verbose
          (named.steps.map .once) := by
    rw [Command.filter_planFor_lines planFor verbose,
      planned.command_deeds_eq]
  have sameStatements :
      Deed.bodyStatements device.family device.symbol context.safeMode
          (named.steps.map .once) =
        Deed.bodyStatements device.family device.symbol
          (safeModeAfter config earlier) (named.steps.map .once) := by
    rw [isContext]
    exact bodyStatements_after config device.family device.symbol earlier
      planned
  have replayPlan :
      command.planFor device config.pause context.previous? =
        .ok ((Command.repetition count named).mapKey device.symbol) := by
    rw [isPrevious]
    exact Command.planFor_replay isReplay parameter reads atLeastOne planned
      uses
  refine ⟨_, commandLines_of_planFor notReplay planFor _ _,
    ⟨before, _, ran, isLines⟩,
    ⟨_, commandLines_of_planFor notReplay planFor _ _, ?_⟩,
    Command.filter_planFor_lines planFor _, ?_⟩
  · rw [kept, kept, sameStatements]
  · intro later
    have next := encodeCommands_next reached replayPlan later
    rw [lines_repetition planned, sameStatements, ← kept,
      List.append_assoc, List.length_append] at next
    exact next

end Reached

/-- A switch that makes the program quiet is repeated as it was written. -/
theorem encodeCommands_replays_previous_safeModeOff :
    ∃ own,
      Replays {}
        (.standard "raspberry_pi_pico" "Raspberry Pi Pico" .circuitPython)
        []
        ⟨.safeMode, 1, "SAFE_MODE OFF", ["OFF"]⟩
        ⟨.replay, 2, "REPEAT +2", ["+2"]⟩
        2
        ["    # Command 1: SAFE_MODE OFF",
          "    # SAFE_MODE: Disabled safe mode restrictions",
          "    safe_mode = False",
          ""]
        { safeMode := false
          defaultDelay := 0
          previous? := some ⟨.safeMode, 1, "SAFE_MODE OFF", ["OFF"]⟩ }
        own :=
  encodeCommands_replays_previous rfl rfl rfl (by decide) (by decide)
    (by decide)

end Stateless

end Keystroke
