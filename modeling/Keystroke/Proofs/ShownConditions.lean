import Keystroke.Proofs.Replaying
import Keystroke.Proofs.Splicing

namespace Keystroke

/-!
# The conditions that a sketch shows

A branch and a loop are not evaluated, so their conditions are only shown.  They
stand at the end of a line as they are, and not in a comment that guards against
a backslash at its end.  Such a condition joins the next line to its own.  Every
other line of a command stands alone, whatever the texts of the command are, and
a repetition shows the condition of a loop again, but not that of a branch.
-/

/-! ## Texts behind others -/

namespace Arduino

/-- The second part of a line that stands alone stands alone. -/
theorem StandsAlone.of_append
    {first second : String}
    (stands : StandsAlone (first ++ second)) :
    StandsAlone second := by
  rw [standsAlone_iff] at stands ⊢
  intro endsSo
  rw [Text.lastVisible?_append, endsSo] at stands
  exact stands rfl

/-- A text behind one that stands alone decides whether the line does. -/
theorem standsAlone_append_iff
    {first : String}
    (firstStands : StandsAlone first)
    (second : String) :
    StandsAlone (first ++ second) ↔ StandsAlone second :=
  ⟨.of_append, firstStands.append⟩

/-- A line of the body stands alone if its text does. -/
theorem standsAlone_bodyLine_iff
    {line : CodeLine} :
    StandsAlone (Family.arduino.bodyLine line) ↔ StandsAlone line.text :=
  ⟨.of_append, Family.arduino.bodyLine_induction fun _ => .indented⟩

end Arduino

/-! ## The texts that end a line as they are -/

variable
  {KeyType Symbol : Type}

/--
The condition that an action writes at the end of a line.  The body of a loop
keeps statements only, and there a branch shows its condition no longer.
-/
def Action.ending?
    (inLoop : Bool) :
    Action KeyType → Option String
  | .branchAlways condition => if inLoop then none else some condition
  | .loopOnce condition => some condition
  | _ => none

/-- The conditions that some steps write at the ends of their lines. -/
def Step.endings
    (inLoop : Bool)
    (steps : List (Step KeyType)) :
    List String :=
  steps.filterMap fun step => step.action.ending? inLoop

/-- The conditions that an entry writes at the ends of its lines. -/
def Entry.endings :
    Entry KeyType → List String
  | .perform step => Step.endings false [step]
  | .loop _ steps => Step.endings true steps
  | _ => []

/-- The conditions that a plan writes at the ends of its lines. -/
def Plan.endings
    (plan : Plan KeyType) :
    List String :=
  plan.entries.flatMap Entry.endings

/-- An action that shows no condition ends no line with one. -/
theorem Action.ending?_of_shows_no_condition
    {action : Action KeyType}
    (shown : action.showsCondition = false)
    (inLoop : Bool) :
    action.ending? inLoop = none := by
  cases action with
  | branchAlways condition | loopOnce condition =>
      cases shown
  | _ =>
      rfl

/-- Other keys leave the conditions of steps as they are. -/
theorem Step.endings_map_mapKey
    (rename : KeyType → Symbol)
    (inLoop : Bool)
    (steps : List (Step KeyType)) :
    endings inLoop (steps.map (Step.mapKey rename)) =
      endings inLoop steps := by
  rw [endings, List.filterMap_map]
  refine List.filterMap_congr fun step _ => ?_
  rcases step with ⟨action, note?⟩
  cases action <;> rfl

/-- Other keys leave the conditions of a plan as they are. -/
theorem Plan.endings_mapKey
    (rename : KeyType → Symbol)
    (plan : Plan KeyType) :
    (plan.mapKey rename).endings = plan.endings := by
  simp only [endings, Plan.mapKey, List.flatMap_map]
  refine List.flatMap_congr fun entry _ => ?_
  cases entry with
  | perform step =>
      exact Step.endings_map_mapKey rename false [step]
  | loop count steps =>
      exact Step.endings_map_mapKey rename true steps
  | remark text | aside text =>
      rfl

/-- The conditions of a plan of steps are those of the steps. -/
theorem Plan.endings_ofSteps
    (steps : List (Step KeyType)) :
    (ofSteps steps).endings = Step.endings false steps := by
  induction steps with
  | nil =>
      rfl
  | cons step rest inductionHypothesis =>
      change Step.endings false [step] ++ (ofSteps rest).endings = _
      rw [inductionHypothesis, Step.endings, Step.endings, Step.endings,
        ← List.filterMap_append]
      rfl

namespace Arduino

/--
The lines of an action that are kept stand alone if the condition that it shows
in them does.
-/
theorem standsAlone_actionLines_iff
    (inLoop : Bool)
    (action : Action String) :
    (∀ line ∈ actionLines action,
        (inLoop → line.isStatement) → StandsAlone line.text) ↔
      ∀ condition ∈ action.ending? inLoop, StandsAlone condition := by
  by_cases shown : action.showsCondition = false
  · rw [Action.ending?_of_shows_no_condition shown]
    exact iff_of_true
      (fun line member _ => standsAlone_actionLines shown line member)
      (by simp)
  cases action with
  | branchAlways condition =>
      have placeholder :
          StandsAlone ("// Placeholder for condition: " ++ condition) ↔
            StandsAlone condition :=
        standsAlone_append_iff (standsAlone_ofList (by decide)) condition
      cases inLoop <;>
        simp (disch := decide) [actionLines, Action.ending?,
          CodeLine.statement, CodeLine.comment, CodeLine.nested,
          CodeLine.isStatement, placeholder, @standsAlone_ofList _]
  | loopOnce condition =>
      have placeholder :
          StandsAlone ("break;  // Placeholder for condition: " ++ condition) ↔
            StandsAlone condition :=
        standsAlone_append_iff (standsAlone_ofList (by decide)) condition
      simp (disch := decide) [actionLines, Action.ending?,
        CodeLine.statement, CodeLine.nested, CodeLine.isStatement,
        placeholder, @standsAlone_ofList _]
  | _ =>
      exact absurd rfl shown

/-- So do those of a step, because no note stands behind a condition. -/
theorem standsAlone_stepLines_iff
    (inLoop verbose : Bool)
    {step : Step String}
    (wellNoted : step.WellNoted) :
    (∀ line ∈ step.lines .arduino verbose,
        (inLoop → line.isStatement) → StandsAlone line.text) ↔
      ∀ condition ∈ step.action.ending? inLoop, StandsAlone condition := by
  by_cases shown : step.action.showsCondition = false
  · rw [Action.ending?_of_shows_no_condition shown]
    exact iff_of_true
      (fun line member _ => standsAlone_stepLines shown verbose line member)
      (by simp)
  · -- A guarded note would hide the condition, but only other actions take one.
    have noNote : step.note? = none := by
      by_contra noted
      have takes := wellNoted noted
      cases action : step.action <;>
        simp_all [Action.takesNote, Action.showsCondition]
    have bare : step.lines .arduino verbose = actionLines step.action := by
      simp [Step.lines, noNote, Family.actionLines]
    rw [bare]
    exact standsAlone_actionLines_iff inLoop step.action

/-- So do those of several steps. -/
theorem standsAlone_flatMap_lines_iff
    (inLoop verbose : Bool)
    {steps : List (Step String)}
    (wellNoted : ∀ step ∈ steps, step.WellNoted) :
    (∀ line ∈ steps.flatMap (Step.lines .arduino verbose),
        (inLoop → line.isStatement) → StandsAlone line.text) ↔
      ∀ condition ∈ Step.endings inLoop steps, StandsAlone condition := by
  have ofStep
      (step : Step String)
      (isStep : step ∈ steps) :=
    standsAlone_stepLines_iff inLoop verbose (wellNoted step isStep)
  constructor
  · intro stands condition member
    obtain ⟨step, isStep, ending⟩ := List.mem_filterMap.mp member
    refine (ofStep step isStep).mp ?_ condition ending
    intro line inStep
    exact stands line (List.mem_flatMap.mpr ⟨step, isStep, inStep⟩)
  · intro stands line member
    obtain ⟨step, isStep, inStep⟩ := List.mem_flatMap.mp member
    refine (ofStep step isStep).mpr ?_ line inStep
    intro condition ending
    exact stands condition (List.mem_filterMap.mpr ⟨step, isStep, ending⟩)

/-- The lines of an entry stand alone if its conditions do. -/
theorem standsAlone_entryLines_iff
    (verbose : Bool)
    {entry : Entry String}
    (wellNoted : ∀ step ∈ entry.allSteps, step.WellNoted) :
    (∀ line ∈ entry.lines .arduino verbose, StandsAlone line.text) ↔
      ∀ condition ∈ entry.endings, StandsAlone condition := by
  cases entry with
  | remark text | aside text =>
      refine iff_of_true ?_ (List.forall_mem_nil _)
      exact standsAlone_entryLines (List.forall_mem_nil _) verbose
  | perform step =>
      have ofStep := standsAlone_flatMap_lines_iff false verbose wellNoted
      simpa [Entry.allSteps, Entry.lines, Entry.endings] using ofStep
  | loop count steps =>
      have opening : StandsAlone (loopStart count) :=
        standsAlone_of_end _ rfl (by decide)
      have closing : StandsAlone loopEnd :=
        standsAlone_ofList (by decide)
      have body :=
        @standsAlone_flatMap_lines_iff true verbose steps wellNoted
      rw [Entry.endings, ← body]
      simp only [Entry.lines, List.forall_mem_append, List.forall_mem_map,
        List.mem_filter, and_imp, forall_const]
      constructor
      · rintro ⟨⟨_, stands⟩, _⟩
        exact stands
      · intro stands
        exact ⟨⟨List.forall_mem_singleton.mpr opening, stands⟩,
          List.forall_mem_singleton.mpr closing⟩

/-- The lines of a plan in the body stand alone if its conditions do. -/
theorem standsAlone_planLines_iff
    (verbose : Bool)
    {plan : Plan String}
    (wellNoted : plan.WellNoted) :
    (∀ line ∈ (plan.lines .arduino verbose).map Family.arduino.bodyLine,
        StandsAlone line) ↔
      ∀ condition ∈ plan.endings, StandsAlone condition := by
  have ofEntry
      (entry : Entry String)
      (isEntry : entry ∈ plan.entries) :=
    @standsAlone_entryLines_iff verbose entry fun step isStep =>
      wellNoted step (List.mem_flatMap.mpr ⟨entry, isEntry, isStep⟩)
  rw [List.forall_mem_map]
  simp only [standsAlone_bodyLine_iff, Plan.lines, Plan.endings,
    List.forall_mem_flatMap]
  exact forall₂_congr ofEntry

end Arduino

/-! ## Commands that show a condition -/

namespace Command

/--
The condition that a command writes at the end of a line as it is: that of a
branch, that of a loop, and that of a loop which the command repeats.
-/
inductive EndsLineWith
    (previous? : Option Command)
    (command : Command)
    (condition : String) :
    Prop where
  | branch :
      command.kind = .branch →
      command.firstParameter? = some condition →
      EndsLineWith previous? command condition
  | loop :
      command.kind = .loop →
      command.firstParameter? = some condition →
      EndsLineWith previous? command condition
  | repeatedLoop
      {previous : Command} :
      command.kind = .replay →
      previous? = some previous →
      previous.kind = .loop →
      previous.firstParameter? = some condition →
      EndsLineWith previous? command condition

section Planning

variable
  {pause : Text.Milliseconds}
  {command : Command}
  {plan : Plan KeyName}

/-- A plan in the list has no loop, so its conditions are those of its steps. -/
theorem Planned.endings_eq
    (planned : Planned pause command plan) :
    plan.endings = Step.endings false plan.steps := by
  cases planned with
  | key | combination =>
      exact (Plan.endings_ofSteps _).trans
        (congrArg _ (Plan.steps_ofSteps _).symm)
  | _ =>
      rfl

/-- The conditions of a repetition are those that its steps show in a loop. -/
theorem endings_repetition
    (count : Int)
    (plan : Plan KeyName) :
    (repetition count plan).endings = Step.endings true plan.steps := by
  have body :
      (repetition count plan).endings =
        Step.endings true (repeatedSteps plan) :=
    List.append_nil _
  rw [body, repeatedSteps]
  split
  · rename_i isEmpty
    rw [List.isEmpty_iff.mp isEmpty]
    rfl
  · rfl

/-- Only a branch or a loop shows a condition, and in a loop only the loop. -/
theorem Planned.mem_endings_steps_iff
    (planned : Planned pause command plan)
    (inLoop : Bool)
    (condition : String) :
    condition ∈ Step.endings inLoop plan.steps ↔
      (command.kind = .branch ∧ inLoop = false ∨ command.kind = .loop) ∧
        command.firstParameter? = some condition := by
  -- The plans of a branch and of a loop are opened; no other shows a condition.
  by_cases isBranch : command.kind = .branch
  · have made := planned.directPlan
    simp only [Command.directPlan, isBranch, branchPlan, Outcome.bind_eq_ok,
      required_eq_ok] at made
    obtain ⟨shown, parameter, shape⟩ := made
    cases shape
    cases inLoop <;>
      simp [Plan.steps, Plan.ofEntries, Entry.step?, Step.plain,
        Step.endings, Action.ending?, isBranch, parameter, eq_comm]
  by_cases isLoop : command.kind = .loop
  · have made := planned.directPlan
    simp only [Command.directPlan, isLoop, loopPlan, Outcome.bind_eq_ok,
      required_eq_ok] at made
    obtain ⟨shown, parameter, shape⟩ := made
    cases shape
    simp [Plan.steps, Plan.ofEntries, Entry.step?, Step.plain,
      Step.endings, Action.ending?, isLoop, parameter, eq_comm]
  have shown := planned.shows_no_condition isBranch isLoop
  have none : Step.endings inLoop plan.steps = [] := by
    refine List.filterMap_eq_nil_iff.mpr fun step member => ?_
    exact Action.ending?_of_shows_no_condition
      (shown step (Plan.mem_allSteps_of_mem_steps member)) inLoop
  simp [none, isBranch, isLoop]

/-- The plan of a command ends lines with exactly these conditions. -/
theorem mem_endings_iff
    {previous? : Option Command}
    (planned : command.plan pause previous? = .ok plan)
    (condition : String) :
    condition ∈ plan.endings ↔ command.EndsLineWith previous? condition := by
  rcases plan_eq_ok.mp planned with direct | replayed
  · rw [direct.endings_eq, direct.mem_endings_steps_iff]
    constructor
    · rintro ⟨⟨isBranch, _⟩ | isLoop, parameter⟩
      · exact .branch isBranch parameter
      · exact .loop isLoop parameter
    · intro endsSo
      cases endsSo with
      | branch isBranch parameter =>
          exact ⟨.inl ⟨isBranch, rfl⟩, parameter⟩
      | loop isLoop parameter =>
          exact ⟨.inr isLoop, parameter⟩
      | repeatedLoop isReplay =>
          exact absurd isReplay direct.kind_ne_replay
  · cases replayed with
    | @replay value count previous repeated isReplay _ _ _ isPrevious
        repeatedPlanned =>
        change condition ∈ (repetition count repeated).endings ↔ _
        rw [endings_repetition, repeatedPlanned.mem_endings_steps_iff]
        constructor
        · rintro ⟨⟨_, impossible⟩ | isLoop, parameter⟩
          · cases impossible
          · exact .repeatedLoop isReplay isPrevious isLoop parameter
        · intro endsSo
          cases endsSo with
          | branch kind | loop kind =>
              rw [isReplay] at kind
              cases kind
          | repeatedLoop _ isOther isLoop parameter =>
              cases isPrevious.symm.trans isOther
              exact ⟨.inr isLoop, parameter⟩

end Planning

end Command

namespace Stateless

/--
A condition is all that joins two lines of a sketch.  The lines of a command
that can be encoded for an Arduino stand alone, whatever its texts are, except
that a condition which ends a line as it is has to stand alone itself.
-/
theorem lines_stand_alone_iff
    {device : Device}
    (isArduino : device.family = .arduino)
    {pause : Text.Milliseconds}
    {verbose : Bool}
    {previous? : Option Command}
    {command : Command}
    {lines : List String}
    (written :
      commandLines device pause verbose previous? command = .ok lines) :
    (∀ line ∈ lines, Arduino.StandsAlone line) ↔
      ∀ condition,
        command.EndsLineWith previous? condition →
        Arduino.StandsAlone condition := by
  obtain ⟨plan, planned, rfl⟩ := Outcome.map_eq_ok.mp written
  have wellNoted := Command.planFor_wellNoted planned
  obtain ⟨named, namedPlan, rfl⟩ := Command.exists_plan_of_planFor planned
  rw [isArduino, Arduino.standsAlone_planLines_iff verbose wellNoted,
    Plan.endings_mapKey]
  simp only [Command.mem_endings_iff namedPlan]

/-- A loop whose condition ends in a backslash and a blank. -/
def splicingLoop :
    Command where
  kind := .loop
  line := 1
  rawText := "WHILE x\\ "
  parameters := ["x\\ "]

/-- The lines of a repetition of the loop. -/
def splicedLines :
    List String :=
  ["  // REPEAT: Repeating last command 2 times",
    "  for (unsigned long i = 0; i < 2; i++) \x7b",
    "    while (true) \x7b",
    "      break;  // Placeholder for condition: x\\ ",
    "    \x7d",
    "  \x7d"]

/-- A repetition of the loop joins the closing brace to the condition. -/
theorem lines_stand_alone_iff_splicedLines :
    commandLines (.standard "teensy_4" "Teensy 4.0" .arduino) 5000 false
          (some splicingLoop) ⟨.replay, 2, "REPEAT 2", ["2"]⟩ =
        .ok splicedLines ∧
      ¬ ∀ line ∈ splicedLines, Arduino.StandsAlone line := by
  have written :
      commandLines (.standard "teensy_4" "Teensy 4.0" .arduino) 5000 false
          (some splicingLoop) ⟨.replay, 2, "REPEAT 2", ["2"]⟩ =
        .ok splicedLines := by
    decide
  refine ⟨written, fun stand => ?_⟩
  have conditionStands :=
    (lines_stand_alone_iff rfl written).mp stand "x\\ "
      (.repeatedLoop rfl rfl rfl rfl)
  exact conditionStands rfl

end Stateless

end Keystroke
