import Keystroke.Proofs.Deeds
import Keystroke.Proofs.EncodingFailure
import Keystroke.Proofs.KnownKeys
import Keystroke.Proofs.Numeral

namespace Keystroke

/-!
# What the blocks of a program do

Every command of a script has its deeds, which are the same on every device.
The block that is written for the command consists of comments, of the
statements for its deeds in the words of the family, and of an empty line at the
end.
-/

/-! ## The deeds of a command -/

namespace Plan

variable
  {KeyType : Type}

/-- A plan of steps only performs every step once. -/
theorem deeds_ofSteps
    (steps : List (Step KeyType)) :
    (ofSteps steps).deeds = steps.map .once := by
  simp only [deeds, ofSteps, ofEntries, List.filterMap_map]
  exact congrFun List.filterMap_eq_map steps

/-- A plan of steps only has these steps. -/
theorem steps_ofSteps
    (steps : List (Step KeyType)) :
    (ofSteps steps).steps = steps := by
  simp only [Plan.steps, ofSteps, ofEntries, List.filterMap_map]
  exact List.filterMap_some

end Plan

namespace Command

/-- The steps that a command performs by itself. -/
def ownSteps
    (pause : Text.Milliseconds)
    (command : Command) :
    List (Step KeyName) :=
  match command.directPlan pause with
  | .ok plan => plan.steps
  | .error _ => []

/-- How often a repetition performs the command before it. -/
def repetitions
    (command : Command) :
    Nat :=
  match command.firstParameter?.bind fun value =>
      Text.integer? (Text.trim value) with
  | some count => count.toNat
  | none => 0

/--
What a command does after another one.  A repetition loops over the steps of
the command before it, or over an idle step if there are none.
-/
def deeds
    (pause : Text.Milliseconds)
    (previous? : Option Command)
    (command : Command) :
    List (Deed KeyName) :=
  if command.kind = .replay then
    match previous?.toList.flatMap (ownSteps pause) with
    | [] => [.loop command.repetitions [.plain .idle]]
    | step :: steps => [.loop command.repetitions (step :: steps)]
  else
    (command.ownSteps pause).map .once

section Planning

variable
  {pause : Text.Milliseconds}
  {previous? : Option Command}
  {command : Command}
  {plan : Plan KeyName}

/-- A plan of the list performs its steps once and loops over nothing. -/
theorem Planned.deeds_eq
    (planned : Planned pause command plan) :
    plan.deeds = plan.steps.map .once := by
  cases planned with
  | combination =>
      rw [Plan.steps_ofSteps]
      exact Plan.deeds_ofSteps _
  | _ =>
      rfl

/-- The own steps of a command are those of its plan in the list. -/
theorem Planned.ownSteps_eq
    (planned : Planned pause command plan) :
    command.ownSteps pause = plan.steps := by
  rw [ownSteps, planned.directPlan]

/-- A command with a plan in the list performs the steps of the plan. -/
theorem Planned.command_deeds_eq
    (planned : Planned pause command plan)
    (previous? : Option Command) :
    command.deeds pause previous? = plan.steps.map .once := by
  rw [deeds, if_neg planned.kind_ne_replay, planned.ownSteps_eq]

/-- The deeds of a plan are those of its command. -/
theorem deeds_of_plan
    (planned : command.plan pause previous? = .ok plan) :
    plan.deeds = command.deeds pause previous? := by
  rcases plan_eq_ok.mp planned with direct | replayed
  · rw [direct.deeds_eq, direct.command_deeds_eq]
  · cases replayed with
    | @replay value count previous repeated kind parameter reads atLeastOne
        isPrevious repeatedPlanned =>
        have fits : count.toNat < UInt64.size :=
          ReadsAsDuration.toNat_lt ⟨reads, by omega⟩
        have isCount : command.repetitions = count.toNat := by
          simp only [repetitions, parameter, Option.bind_some, reads]
        have isBody :
            previous?.toList.flatMap (ownSteps pause) = repeated.steps := by
          rw [isPrevious, ← repeatedPlanned.ownSteps_eq]
          exact List.flatMap_singleton _ _
        rw [deeds, if_pos kind, isBody, isCount, repeatedSteps]
        simp only [Plan.deeds, List.filterMap_cons, List.filterMap_nil,
          Entry.deed?, UInt64.toNat_ofNat_of_lt' fits]
        cases repeated.steps <;> rfl

/-- A duration is far below the largest word, so it has a successor. -/
theorem ReadsAsDuration.succ_lt
    {value : String}
    {number : Int}
    (reads : ReadsAsDuration value number) :
    (UInt64.ofNat number.toNat).toNat + 1 < UInt64.size := by
  obtain ⟨_, _, bound⟩ := Text.integer?_eq_some.mp reads.reads
  rw [UInt64.toNat_ofNat_of_lt' reads.toNat_lt]
  have small : number < 0x8000000000000000 := bound
  change number.toNat + 1 < 0x10000000000000000
  omega

/-- There are no random waits in a chord. -/
theorem inBounds_chord
    (keys : List (KeyName × String)) :
    (Plan.ofSteps (chord keys)).InBounds := by
  intro step member
  rw [Plan.allSteps_ofSteps] at member
  rcases List.mem_append.mp member with isPress | isRelease
  · obtain ⟨_, _, rfl⟩ := List.mem_map.mp isPress
    trivial
  · obtain ⟨_, _, rfl⟩ := List.mem_map.mp isRelease
    trivial

/-- The random waits of a plan in the list have bounds with successors. -/
theorem Planned.inBounds
    (planned : Planned pause command plan) :
    plan.InBounds := by
  cases planned with
  | key | combination =>
      exact inBounds_chord _
  | randomDelay _ _ _ secondReads _ mostShape =>
      intro step member
      rw [List.mem_singleton.mp member, mostShape]
      exact secondReads.succ_lt
  | _ =>
      simp [Plan.InBounds, Plan.allSteps, Entry.allSteps, Plan.ofEntries,
        Plan.ofSteps, pausePlan, switchPlan, customPlan, Step.plain,
        Step.noted, Action.InBounds]

/-- So have the random waits that are repeated. -/
theorem Planned.inBounds_repeatedSteps
    (planned : Planned pause command plan) :
    ∀ step ∈ repeatedSteps plan, step.action.InBounds := by
  intro step member
  rcases idle_or_mem_of_mem_repeatedSteps member with isIdle | inPlan
  · rw [isIdle]
    trivial
  · exact planned.inBounds step inPlan

/-- The random waits of every plan have bounds with successors. -/
theorem inBounds_of_plan
    (planned : command.plan pause previous? = .ok plan) :
    plan.InBounds := by
  rcases plan_eq_ok.mp planned with direct | replayed
  · exact direct.inBounds
  · cases replayed with
    | replay _ _ _ _ _ repeatedPlanned =>
        rw [Plan.InBounds, Plan.allSteps_loop]
        exact repeatedPlanned.inBounds_repeatedSteps

end Planning

end Command

/-! ## The statements of a block -/

/-- The symbol of a device for a key, or nothing if it has none. -/
def Device.symbol
    (device : Device) :
    KeyName → String
  | .known key => (device.vocabulary.symbol? (.key key)).getD ""
  | .spelled token => device.family.spell token

/-- A symbol that is found for a key does not depend on the command. -/
theorem Command.eq_symbol_of_symbolFor
    {command : Command}
    {device : Device}
    {key : KeyName}
    {found : String}
    (isFound : command.symbolFor device key = .ok found) :
    found = device.symbol key := by
  cases key with
  | spelled token =>
      cases isFound
      rfl
  | known key =>
      simp only [symbolFor] at isFound
      split at isFound
      · rename_i symbol hasSymbol
        cases isFound
        simp [Device.symbol, hasSymbol]
      · cases isFound

/-- The plan for a device is a plan with the symbols of the device. -/
theorem Command.exists_plan_of_planFor
    {device : Device}
    {pause : Text.Milliseconds}
    {previous? : Option Command}
    {command : Command}
    {plan : Plan String}
    (planned : command.planFor device pause previous? = .ok plan) :
    ∃ named,
      command.plan pause previous? = .ok named ∧
        plan = named.mapKey device.symbol := by
  obtain ⟨named, namedPlan, resolves⟩ := planFor_eq_ok.mp planned
  exact ⟨named, namedPlan,
    Plan.eq_mapKey_of_resolve (fun _ _ => eq_symbol_of_symbolFor) resolves⟩

/-- The statements of deeds as they stand in the body of a program. -/
def Deed.bodyStatements
    (family : Family)
    (symbol : KeyName → String)
    (verbose : Bool)
    (deeds : List (Deed KeyName)) :
    List String :=
  (deeds.flatMap fun deed =>
      (deed.mapKey symbol).statements family verbose).map
    fun text => family.indentation ++ text

/-- The statements of deeds that stand one after the other. -/
theorem Deed.bodyStatements_append
    (family : Family)
    (symbol : KeyName → String)
    (verbose : Bool)
    (first second : List (Deed KeyName)) :
    bodyStatements family symbol verbose (first ++ second) =
      bodyStatements family symbol verbose first ++
        bodyStatements family symbol verbose second := by
  simp [bodyStatements]

/-- The statements of steps that are performed once. -/
theorem Deed.bodyStatements_once
    (family : Family)
    (symbol : KeyName → String)
    (verbose : Bool)
    (steps : List (Step KeyName)) :
    bodyStatements family symbol verbose (steps.map .once) =
      ((steps.map (Step.mapKey symbol)).flatMap
          (Step.statements family verbose)).map fun text =>
        family.indentation ++ text := by
  rw [bodyStatements, List.flatMap_map, List.flatMap_map]
  rfl

/-- The statements among the lines of a command are those of its deeds. -/
theorem Command.filter_planFor_lines
    {device : Device}
    {pause : Text.Milliseconds}
    {previous? : Option Command}
    {command : Command}
    {plan : Plan String}
    (planned : command.planFor device pause previous? = .ok plan)
    (verbose : Bool) :
    ((plan.lines device.family verbose).map device.family.bodyLine).filter
        (fun text => !device.family.isComment text) =
      Deed.bodyStatements device.family device.symbol verbose
        (command.deeds pause previous?) := by
  obtain ⟨named, namedPlan, rfl⟩ := exists_plan_of_planFor planned
  have inBounds : (named.mapKey device.symbol).InBounds :=
    (inBounds_of_plan namedPlan).mapKey device.symbol
  rw [Family.filter_isComment_bodyLines _ (Plan.honest_lines _ _ _),
    Plan.statementTexts_lines device.family verbose inBounds,
    Plan.deeds_mapKey, deeds_of_plan namedPlan, Deed.bodyStatements,
    List.flatMap_map]

namespace Stateless

/-- The wait for the default delay that follows a command, as a deed. -/
def delayDeeds
    (delay : Text.Milliseconds)
    (command : Command) :
    List (Deed KeyName) :=
  if 0 < delay ∧
      command.kind ∉ [.comment, .remark, .defaultDelay] then
    [.once (.plain (.wait delay))]
  else
    []

/-- What is done in the block of the command that stands at an index. -/
def deedsAt
    (pause : Text.Milliseconds)
    (commands : List Command)
    (index : Nat)
    (command : Command) :
    List (Deed KeyName) :=
  command.deeds pause (commands.take index).getLast? ++
    delayDeeds (delayAfter (commands.take index)) command

/-- The echo of a command is a comment. -/
theorem filter_echoLines
    (family : Family)
    (verbose : Bool)
    (index : Nat)
    (command : Command) :
    (echoLines family verbose index command).filter
        (fun text => !family.isComment text) =
      [] := by
  cases verbose with
  | false =>
      rfl
  | true =>
      have isComment :=
        (CodeLine.Honest.isComment_bodyLine
          (family.honest_commentLine
            ("Command " ++ (index + 1).repr ++ ": " ++ command.rawText)))
      rw [Family.commentLine, Family.bodyLine_comment] at isComment
      simp only [echoLines, ↓reduceIte, List.filter_cons, isComment]
      rfl

/-- The wait after a command is the statement of its deed. -/
theorem filter_delayLines
    (family : Family)
    (symbol : KeyName → String)
    (verbose : Bool)
    (delay : Text.Milliseconds)
    (command : Command) :
    (delayLines family delay command).filter
        (fun text => !family.isComment text) =
      Deed.bodyStatements family symbol verbose
        (delayDeeds delay command) := by
  unfold delayLines delayDeeds
  split
  · have lines :=
      Family.filter_isComment_bodyLines family
        (family.honest_actionLines (.wait delay))
    have statements :=
      Action.statementTexts_actionLines family
        (show (Action.wait delay).InBounds from trivial)
    rw [statements, Family.actionLines_wait] at lines
    cases verbose <;>
      simpa [Deed.bodyStatements, Deed.mapKey, Deed.statements, Step.mapKey,
        Step.plain, Step.statements, Action.mapKey,
        Family.bodyLine_statement] using lines
  · rfl

/-- The statements of a block are those of its deeds, and an empty line. -/
theorem filter_block
    {config : EncoderConfig}
    {device : Device}
    {commands : List Command}
    {index : Nat}
    {command : Command}
    {lines : List String}
    (written : block config device commands index command = .ok lines) :
    lines.filter (fun text => !device.family.isComment text) =
      Deed.bodyStatements device.family device.symbol
          (safeModeAfter config (commands.take index))
          (deedsAt config.pause commands index command) ++
        [""] := by
  obtain ⟨plan, planned, rfl⟩ := block_eq_ok.mp written
  have isStatement : device.family.isComment "" = false := by
    cases device.family <;> decide
  simp only [List.filter_append, filter_echoLines, List.nil_append,
    Command.filter_planFor_lines planned, deedsAt, Deed.bodyStatements_append]
  rw [filter_delayLines device.family device.symbol
    (safeModeAfter config (commands.take index))]
  simp [isStatement]

/-- A program that is encoded is made of blocks. -/
theorem exists_blocks_of_encode
    {config : EncoderConfig}
    {script : Script}
    {device : Device}
    {code : String}
    (encoded : (Encoder.encode config script device).outcome = .ok code) :
    ∃ written,
      blocks config device script.commands = .ok written ∧
        code = programOf config script device written := by
  rw [encode_outcome, program] at encoded
  cases made : blocks config device script.commands with
  | error fault =>
      rw [made] at encoded
      cases encoded
  | ok written =>
      rw [made] at encoded
      cases encoded
      exact ⟨written, rfl, rfl⟩

end Stateless

end Keystroke
