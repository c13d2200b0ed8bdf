import Keystroke.Proofs.Encodable
import Keystroke.Proofs.Statements

namespace Keystroke

/-!
# What commands do, without their comments

The deeds of a command are the steps that it performs and the loops over steps,
with names for keys.  They depend on the command, on the length of a pause and,
for a repetition, on the command before it, and on nothing else.  Whatever the
device, the statements of a command's block are those of its deeds with the
symbols of the device, followed by the wait for the default delay.
-/

/-- What a command does: a step, or a loop over steps. -/
inductive Deed
    (KeyType : Type) where
  | once (step : Step KeyType)
  | loop (count : Nat) (steps : List (Step KeyType))
  deriving Repr, DecidableEq

variable
  {KeyType Symbol Fault : Type}

/-! ## Other keys in the place of keys -/

/-- The action with other keys. -/
def Action.mapKey
    (rename : KeyType → Symbol) :
    Action KeyType → Action Symbol
  | .wait duration => .wait duration
  | .waitBetween least most => .waitBetween least most
  | .typeText text => .typeText text
  | .press key => .press (rename key)
  | .release key => .release (rename key)
  | .print text => .print text
  | .recordSafeMode enabled => .recordSafeMode enabled
  | .idle => .idle
  | .branchAlways condition => .branchAlways condition
  | .loopOnce condition => .loopOnce condition

/-- The step with other keys. -/
def Step.mapKey
    (rename : KeyType → Symbol)
    (step : Step KeyType) :
    Step Symbol where
  action := step.action.mapKey rename
  note? := step.note?

/-- The entry with other keys. -/
def Entry.mapKey
    (rename : KeyType → Symbol) :
    Entry KeyType → Entry Symbol
  | .remark text => .remark text
  | .aside text => .aside text
  | .perform step => .perform (step.mapKey rename)
  | .loop count steps => .loop count (steps.map (Step.mapKey rename))

/-- The plan with other keys. -/
def Plan.mapKey
    (rename : KeyType → Symbol)
    (plan : Plan KeyType) :
    Plan Symbol where
  entries := plan.entries.map (Entry.mapKey rename)
  change := plan.change
  notices := plan.notices

/-- The deed with other keys. -/
def Deed.mapKey
    (rename : KeyType → Symbol) :
    Deed KeyType → Deed Symbol
  | .once step => .once (step.mapKey rename)
  | .loop count steps => .loop count (steps.map (Step.mapKey rename))

/-- The deed of an entry that is no comment. -/
def Entry.deed? :
    Entry KeyType → Option (Deed KeyType)
  | .perform step => some (.once step)
  | .loop count steps => some (.loop count.toNat steps)
  | _ => none

/-- The deeds of a plan. -/
def Plan.deeds
    (plan : Plan KeyType) :
    List (Deed KeyType) :=
  plan.entries.filterMap Entry.deed?

section Resolving

variable
  {lookup : KeyType → Except Fault Symbol}
  {symbol : KeyType → Symbol}

/-- Resolving an action puts symbols in the place of keys. -/
theorem Action.eq_mapKey_of_resolve
    (agrees : ∀ key found, lookup key = .ok found → found = symbol key)
    {action : Action KeyType}
    {resolved : Action Symbol}
    (resolves : action.resolve lookup = .ok resolved) :
    resolved = action.mapKey symbol := by
  cases action with
  | press key | release key =>
      obtain ⟨found, isFound, shape⟩ := Outcome.map_eq_ok.mp resolves
      rw [← shape, agrees key found isFound]
      rfl
  | _ =>
      cases resolves
      rfl

/-- Resolving a step puts symbols in the place of keys. -/
theorem Step.eq_mapKey_of_resolve
    (agrees : ∀ key found, lookup key = .ok found → found = symbol key)
    {step : Step KeyType}
    {resolved : Step Symbol}
    (resolves : step.resolve lookup = .ok resolved) :
    resolved = step.mapKey symbol := by
  obtain ⟨action, actionResolves, shape⟩ := Outcome.map_eq_ok.mp resolves
  rw [← shape, Action.eq_mapKey_of_resolve agrees actionResolves]
  rfl

/-- Resolving an entry puts symbols in the place of keys. -/
theorem Entry.eq_mapKey_of_resolve
    (agrees : ∀ key found, lookup key = .ok found → found = symbol key)
    {entry : Entry KeyType}
    {resolved : Entry Symbol}
    (resolves : entry.resolve lookup = .ok resolved) :
    resolved = entry.mapKey symbol := by
  cases entry with
  | remark text | aside text =>
      cases resolves
      rfl
  | perform step =>
      obtain ⟨found, stepResolves, shape⟩ := Outcome.map_eq_ok.mp resolves
      rw [← shape, Step.eq_mapKey_of_resolve agrees stepResolves]
      rfl
  | loop count steps =>
      obtain ⟨found, stepsResolve, shape⟩ := Outcome.map_eq_ok.mp resolves
      have sameSteps : found = steps.map (Step.mapKey symbol) :=
        Outcome.eq_map_of_mapM
          (fun _ _ => Step.eq_mapKey_of_resolve agrees) stepsResolve
      rw [← shape, sameSteps]
      rfl

/-- Resolving a plan puts symbols in the place of keys. -/
theorem Plan.eq_mapKey_of_resolve
    (agrees : ∀ key found, lookup key = .ok found → found = symbol key)
    {plan : Plan KeyType}
    {resolved : Plan Symbol}
    (resolves : plan.resolve lookup = .ok resolved) :
    resolved = plan.mapKey symbol := by
  obtain ⟨entries, entriesResolve, rfl⟩ := Outcome.map_eq_ok.mp resolves
  have sameEntries : entries = plan.entries.map (Entry.mapKey symbol) :=
    Outcome.eq_map_of_mapM
      (fun _ _ => Entry.eq_mapKey_of_resolve agrees) entriesResolve
  rw [sameEntries]
  rfl

end Resolving

/-- The deeds of a plan with other keys. -/
theorem Plan.deeds_mapKey
    (rename : KeyType → Symbol)
    (plan : Plan KeyType) :
    (plan.mapKey rename).deeds = plan.deeds.map (Deed.mapKey rename) := by
  simp only [deeds, mapKey, List.filterMap_map, List.map_filterMap]
  refine List.filterMap_congr fun entry _ => ?_
  cases entry <;> rfl

/-- The steps of a plan with other keys. -/
theorem Plan.steps_mapKey
    (rename : KeyType → Symbol)
    (plan : Plan KeyType) :
    (plan.mapKey rename).steps = plan.steps.map (Step.mapKey rename) := by
  simp only [steps, mapKey, List.filterMap_map, List.map_filterMap]
  refine List.filterMap_congr fun entry _ => ?_
  cases entry <;> rfl

/-! ## The statements of deeds -/

/-- A loop around statements, which are indented once more. -/
def Family.loopStatements :
    Family → Nat → List String → List String
  | .circuitPython, count, body =>
      ("for _ in range(" ++ count.repr ++ "):") ::
        body.map fun text => "    " ++ text
  | .arduino, count, body =>
      ("for (unsigned long i = 0; i < " ++ count.repr ++ "; i++) \x7b") ::
        (body.map fun text => "  " ++ text) ++
        ["\x7d"]

/-- The statements of a loop are a loop around the statements in it. -/
theorem Family.statementTexts_loop
    (family : Family)
    (count : UInt64)
    (body : List CodeLine) :
    family.statementTexts
        ([.statement (family.loopStart count)] ++
          body.map CodeLine.nested ++
          family.loopEnd?.toList.map CodeLine.statement) =
      family.loopStatements count.toNat (family.statementTexts body) := by
  rw [Family.statementTexts_append, Family.statementTexts_append,
    Family.statementTexts_map_nested, Family.statementTexts_statement]
  cases family with
  | circuitPython =>
      exact List.append_nil _
  | arduino =>
      have last :
          arduino.statementTexts [.statement Arduino.loopEnd] = ["\x7d"] :=
        Family.statementTexts_statement _ _ _
      simp only [Family.loopEnd?, Option.toList_some, List.map_cons,
        List.map_nil, last]
      rfl

/-- The statements of a deed, with notes if the program is verbose. -/
def Deed.statements
    (family : Family)
    (verbose : Bool) :
    Deed String → List String
  | .once step =>
      step.statements family verbose
  | .loop count steps =>
      family.loopStatements count
        (steps.flatMap (Step.statements family verbose))

/-- The upper bounds of all random waits of a plan have successors. -/
def Plan.InBounds
    (plan : Plan KeyType) :
    Prop :=
  ∀ step ∈ plan.allSteps, step.action.InBounds

/-- Another key leaves the random wait of a step as it is. -/
theorem Step.inBounds_mapKey
    {step : Step KeyType}
    (inBounds : step.action.InBounds)
    (rename : KeyType → Symbol) :
    (step.mapKey rename).action.InBounds := by
  rcases step with ⟨action, note?⟩
  cases action <;> exact inBounds

/-- The steps of a plan with other keys are its steps with other keys. -/
theorem Plan.allSteps_mapKey
    (rename : KeyType → Symbol)
    (plan : Plan KeyType) :
    (plan.mapKey rename).allSteps =
      plan.allSteps.map (Step.mapKey rename) := by
  simp only [allSteps, Plan.mapKey, List.flatMap_map, List.map_flatMap]
  refine List.flatMap_congr fun entry _ => ?_
  cases entry <;> rfl

/-- Other keys leave the random waits of a plan as they are. -/
theorem Plan.InBounds.mapKey
    {plan : Plan KeyType}
    (inBounds : plan.InBounds)
    (rename : KeyType → Symbol) :
    (plan.mapKey rename).InBounds := by
  intro renamed member
  rw [allSteps_mapKey] at member
  obtain ⟨step, stepMember, rfl⟩ := List.mem_map.mp member
  exact Step.inBounds_mapKey (inBounds step stepMember) rename

/-- The statements among the lines of several steps. -/
theorem Step.statementTexts_flatMap_lines
    (family : Family)
    (verbose : Bool)
    {steps : List (Step String)}
    (inBounds : ∀ step ∈ steps, step.action.InBounds) :
    family.statementTexts (steps.flatMap (Step.lines family verbose)) =
      steps.flatMap (Step.statements family verbose) := by
  rw [Family.statementTexts_flatMap]
  exact List.flatMap_congr fun step member =>
    Step.statementTexts_lines family verbose (inBounds step member)

/-- The statements among the lines of an entry are those of its deed. -/
theorem Entry.statementTexts_lines
    (family : Family)
    (verbose : Bool)
    {entry : Entry String}
    (inBounds : ∀ step ∈ entry.allSteps, step.action.InBounds) :
    family.statementTexts (entry.lines family verbose) =
      entry.deed?.toList.flatMap (Deed.statements family verbose) := by
  cases entry with
  | remark text =>
      rfl
  | aside text =>
      cases verbose <;> rfl
  | perform step =>
      rw [Entry.lines,
        Step.statementTexts_lines family verbose
          (inBounds step List.mem_cons_self)]
      simp only [deed?, Option.toList_some, List.flatMap_singleton,
        Deed.statements]
  | loop count steps =>
      have stepsInBounds : ∀ step ∈ steps, step.action.InBounds := inBounds
      have body :
          family.statementTexts
              ((steps.flatMap (Step.lines family verbose)).filter
                CodeLine.isStatement) =
            steps.flatMap (Step.statements family verbose) := by
        rw [← Step.statementTexts_flatMap_lines family verbose stepsInBounds]
        simp [Family.statementTexts]
      simp only [Entry.lines, deed?, Option.toList_some,
        List.flatMap_singleton, Deed.statements,
        Family.statementTexts_loop, body]

/-- The statements among the lines of a plan are those of its deeds. -/
theorem Plan.statementTexts_lines
    (family : Family)
    (verbose : Bool)
    {plan : Plan String}
    (inBounds : plan.InBounds) :
    family.statementTexts (plan.lines family verbose) =
      plan.deeds.flatMap (Deed.statements family verbose) := by
  rcases plan with ⟨entries, change, notices⟩
  simp only [Plan.lines, Plan.deeds]
  simp only [Plan.InBounds, Plan.allSteps] at inBounds
  induction entries with
  | nil =>
      rfl
  | cons entry rest inductionHypothesis =>
      rw [List.flatMap_cons, List.forall_mem_append] at inBounds
      rw [List.flatMap_cons, Family.statementTexts_append,
        Entry.statementTexts_lines family verbose inBounds.1,
        inductionHypothesis inBounds.2, List.filterMap_cons]
      cases entry.deed? <;> simp

example :
    Family.arduino.statementTexts
        (Plan.lines .arduino true
          (.ofEntries
            [.remark "Wait twice.",
              .loop 2 [.plain (.waitBetween 5 10)]])) =
      ["for (unsigned long i = 0; i < 2; i++) \x7b",
        "  delay(random(5, 11));",
        "\x7d"] := by
  decide

end Keystroke
