import Keystroke.Plan.Planning
import Keystroke.Proofs.Outcome

namespace Keystroke

/-!
# The keys of a plan

A plan is resolved key by key, so a device can carry it out if it has a symbol
for each of the keys in it.
-/

variable
  {KeyType Symbol Fault : Type}

namespace Action

/-- The key that an action presses or releases. -/
def key? :
    Action KeyType → Option KeyType
  | .press key => some key
  | .release key => some key
  | _ => none

/-- An action can be resolved if its key can be looked up. -/
theorem succeeds_resolve
    {lookup : KeyType → Except Fault Symbol}
    {action : Action KeyType} :
    Outcome.Succeeds (action.resolve lookup) ↔
      ∀ key ∈ action.key?, Outcome.Succeeds (lookup key) := by
  cases action with
  | press key =>
      simp [resolve, key?]
  | release key =>
      simp [resolve, key?]
  | _ =>
      simp [resolve, key?, Outcome.Succeeds]

/-- An action that is refused has a key that is refused. -/
theorem exists_key_of_resolve_eq_error
    {lookup : KeyType → Except Fault Symbol}
    {action : Action KeyType}
    {fault : Fault}
    (refused : action.resolve lookup = .error fault) :
    ∃ key ∈ action.key?, lookup key = .error fault := by
  cases action with
  | press key | release key =>
      exact ⟨key, rfl, Outcome.eq_error_of_map refused⟩
  | _ =>
      cases refused

/-- An action is resolved likewise if its key is looked up elsewhere. -/
theorem resolve_of_agree
    {lookup other : KeyType → Except Fault Symbol}
    (agree : ∀ key symbol, lookup key = .ok symbol → other key = .ok symbol)
    {action : Action KeyType}
    {resolved : Action Symbol}
    (resolves : action.resolve lookup = .ok resolved) :
    action.resolve other = .ok resolved := by
  cases action with
  | press key | release key =>
      obtain ⟨symbol, found, rfl⟩ := Outcome.map_eq_ok.mp resolves
      exact Outcome.map_eq_ok.mpr ⟨symbol, agree key symbol found, rfl⟩
  | _ =>
      exact resolves

/-- Resolving an action has the faults of looking up keys. -/
theorem faultsOnly_resolve
    {allowed : Fault → Prop}
    {lookup : KeyType → Except Fault Symbol}
    (lookupFaults : ∀ key, Outcome.FaultsOnly allowed (lookup key))
    (action : Action KeyType) :
    Outcome.FaultsOnly allowed (action.resolve lookup) := by
  cases action with
  | press key =>
      exact (lookupFaults key).map Action.press
  | release key =>
      exact (lookupFaults key).map Action.release
  | _ =>
      exact Outcome.faultsOnly_ok _

end Action

namespace Step

/-- A step can be resolved if its key can be looked up. -/
theorem succeeds_resolve
    {lookup : KeyType → Except Fault Symbol}
    {step : Step KeyType} :
    Outcome.Succeeds (step.resolve lookup) ↔
      ∀ key ∈ step.action.key?, Outcome.Succeeds (lookup key) := by
  rw [resolve, Outcome.succeeds_map, Action.succeeds_resolve]

/-- A step is resolved likewise if its key is looked up elsewhere. -/
theorem resolve_of_agree
    {lookup other : KeyType → Except Fault Symbol}
    (agree : ∀ key symbol, lookup key = .ok symbol → other key = .ok symbol)
    {step : Step KeyType}
    {resolved : Step Symbol}
    (resolves : step.resolve lookup = .ok resolved) :
    step.resolve other = .ok resolved := by
  obtain ⟨action, found, shape⟩ := Outcome.map_eq_ok.mp resolves
  exact Outcome.map_eq_ok.mpr
    ⟨action, Action.resolve_of_agree agree found, shape⟩

/-- Resolving a step has the faults of looking up keys. -/
theorem faultsOnly_resolve
    {allowed : Fault → Prop}
    {lookup : KeyType → Except Fault Symbol}
    (lookupFaults : ∀ key, Outcome.FaultsOnly allowed (lookup key))
    (step : Step KeyType) :
    Outcome.FaultsOnly allowed (step.resolve lookup) :=
  (step.action.faultsOnly_resolve lookupFaults).map _

end Step

namespace Entry

/-- The steps of an entry, those of a loop included. -/
def allSteps :
    Entry KeyType → List (Step KeyType)
  | .perform step => [step]
  | .loop _ steps => steps
  | _ => []

/-- An entry can be resolved if the keys of its steps can be looked up. -/
theorem succeeds_resolve
    {lookup : KeyType → Except Fault Symbol}
    {entry : Entry KeyType} :
    Outcome.Succeeds (entry.resolve lookup) ↔
      ∀ step ∈ entry.allSteps, ∀ key ∈ step.action.key?,
        Outcome.Succeeds (lookup key) := by
  cases entry with
  | perform step =>
      simp [resolve, allSteps, Step.succeeds_resolve]
  | loop count steps =>
      simp [resolve, allSteps, Step.succeeds_resolve]
  | remark text =>
      simp [resolve, allSteps, Outcome.Succeeds]
  | aside text =>
      simp [resolve, allSteps, Outcome.Succeeds]

/-- The steps of a resolved entry are resolved steps of the entry. -/
theorem exists_step_of_resolve
    {lookup : KeyType → Except Fault Symbol}
    {entry : Entry KeyType}
    {resolved : Entry Symbol}
    (resolves : entry.resolve lookup = .ok resolved)
    {resolvedStep : Step Symbol}
    (member : resolvedStep ∈ resolved.allSteps) :
    ∃ step ∈ entry.allSteps, step.resolve lookup = .ok resolvedStep := by
  cases entry with
  | remark text | aside text =>
      cases resolves
      cases member
  | perform step =>
      obtain ⟨found, stepResolves, shape⟩ := Outcome.map_eq_ok.mp resolves
      subst shape
      rw [allSteps, List.mem_singleton] at member
      rw [member]
      exact ⟨step, List.mem_cons_self, stepResolves⟩
  | loop count steps =>
      obtain ⟨found, stepsResolve, shape⟩ := Outcome.map_eq_ok.mp resolves
      subst shape
      exact Outcome.exists_of_mem_results
        (Outcome.mapM_eq_ok.mp stepsResolve) member

/-- An entry that is refused has a key that is refused. -/
theorem exists_key_of_resolve_eq_error
    {lookup : KeyType → Except Fault Symbol}
    {entry : Entry KeyType}
    {fault : Fault}
    (refused : entry.resolve lookup = .error fault) :
    ∃ step ∈ entry.allSteps, ∃ key ∈ step.action.key?,
      lookup key = .error fault := by
  cases entry with
  | remark text | aside text =>
      cases refused
  | perform step =>
      have stepRefused := Outcome.eq_error_of_map refused
      exact ⟨step, List.mem_cons_self,
        Action.exists_key_of_resolve_eq_error
          (Outcome.eq_error_of_map stepRefused)⟩
  | loop count steps =>
      obtain ⟨earlier, step, later, shape, _, stepRefused⟩ :=
        Outcome.mapM_eq_error (Outcome.eq_error_of_map refused)
      refine ⟨step, ?_,
        Action.exists_key_of_resolve_eq_error
          (Outcome.eq_error_of_map stepRefused)⟩
      rw [allSteps, shape]
      exact List.mem_append_right earlier List.mem_cons_self

/-- An entry is resolved likewise if its keys are looked up elsewhere. -/
theorem resolve_of_agree
    {lookup other : KeyType → Except Fault Symbol}
    (agree : ∀ key symbol, lookup key = .ok symbol → other key = .ok symbol)
    {entry : Entry KeyType}
    {resolved : Entry Symbol}
    (resolves : entry.resolve lookup = .ok resolved) :
    entry.resolve other = .ok resolved := by
  cases entry with
  | remark text | aside text =>
      exact resolves
  | perform step =>
      obtain ⟨found, stepResolves, shape⟩ := Outcome.map_eq_ok.mp resolves
      exact Outcome.map_eq_ok.mpr
        ⟨found, Step.resolve_of_agree agree stepResolves, shape⟩
  | loop count steps =>
      obtain ⟨found, stepsResolve, shape⟩ := Outcome.map_eq_ok.mp resolves
      rw [Outcome.mapM_eq_ok] at stepsResolve
      exact Outcome.map_eq_ok.mpr
        ⟨found,
          Outcome.mapM_eq_ok.mpr
            (stepsResolve.imp fun _ _ => Step.resolve_of_agree agree),
          shape⟩

/-- Resolving an entry has the faults of looking up keys. -/
theorem faultsOnly_resolve
    {allowed : Fault → Prop}
    {lookup : KeyType → Except Fault Symbol}
    (lookupFaults : ∀ key, Outcome.FaultsOnly allowed (lookup key))
    (entry : Entry KeyType) :
    Outcome.FaultsOnly allowed (entry.resolve lookup) := by
  cases entry with
  | remark text =>
      exact Outcome.faultsOnly_ok _
  | aside text =>
      exact Outcome.faultsOnly_ok _
  | perform step =>
      exact (step.faultsOnly_resolve lookupFaults).map Entry.perform
  | loop count steps =>
      exact (Outcome.FaultsOnly.mapM
        (Step.faultsOnly_resolve lookupFaults) steps).map (Entry.loop count)

end Entry

namespace Plan

/-- The steps of a plan, those in loops included. -/
def allSteps
    (plan : Plan KeyType) :
    List (Step KeyType) :=
  plan.entries.flatMap Entry.allSteps

/-- Resolving the keys of a plan keeps its entries in order, and the rest. -/
theorem resolve_eq_ok
    {lookup : KeyType → Except Fault Symbol}
    {plan : Plan KeyType}
    {resolved : Plan Symbol} :
    plan.resolve lookup = .ok resolved ↔
      List.Forall₂ (fun entry result => entry.resolve lookup = .ok result)
          plan.entries resolved.entries ∧
        resolved.change = plan.change ∧
        resolved.notices = plan.notices := by
  rw [resolve, Outcome.map_eq_ok]
  constructor
  · rintro ⟨entries, resolvedEntries, shape⟩
    subst shape
    exact ⟨Outcome.mapM_eq_ok.mp resolvedEntries, rfl, rfl⟩
  · rintro ⟨resolvedEntries, sameChange, sameNotices⟩
    refine ⟨resolved.entries, Outcome.mapM_eq_ok.mpr resolvedEntries, ?_⟩
    rw [← sameChange, ← sameNotices]

/-- The steps of a resolved plan are resolved steps of the plan. -/
theorem exists_step_of_resolve
    {lookup : KeyType → Except Fault Symbol}
    {plan : Plan KeyType}
    {resolved : Plan Symbol}
    (resolves : plan.resolve lookup = .ok resolved)
    {resolvedStep : Step Symbol}
    (member : resolvedStep ∈ resolved.allSteps) :
    ∃ step ∈ plan.allSteps, step.resolve lookup = .ok resolvedStep := by
  obtain ⟨entriesResolve, _, _⟩ := resolve_eq_ok.mp resolves
  obtain ⟨resolvedEntry, resolvedMember, stepMember⟩ :=
    List.mem_flatMap.mp member
  obtain ⟨entry, entryMember, entryResolves⟩ :=
    Outcome.exists_of_mem_results entriesResolve resolvedMember
  obtain ⟨step, inEntry, stepResolves⟩ :=
    Entry.exists_step_of_resolve entryResolves stepMember
  exact ⟨step, List.mem_flatMap.mpr ⟨entry, entryMember, inEntry⟩,
    stepResolves⟩

/-- The plan has no keys but those that are allowed. -/
def UsesOnly
    (allowed : KeyType → Prop)
    (plan : Plan KeyType) :
    Prop :=
  ∀ step ∈ plan.allSteps, ∀ key ∈ step.action.key?, allowed key

/-- A plan can be resolved if all of its keys can be looked up. -/
theorem succeeds_resolve
    {lookup : KeyType → Except Fault Symbol}
    {plan : Plan KeyType} :
    Outcome.Succeeds (plan.resolve lookup) ↔
      plan.UsesOnly fun key => Outcome.Succeeds (lookup key) := by
  simp only [resolve, Outcome.succeeds_map, Outcome.succeeds_mapM,
    Entry.succeeds_resolve, UsesOnly, allSteps, List.mem_flatMap]
  constructor
  · rintro everyEntry step ⟨entry, entryMember, stepMember⟩
    exact everyEntry entry entryMember step stepMember
  · intro everyStep entry entryMember step stepMember
    exact everyStep step ⟨entry, entryMember, stepMember⟩

/-- A plan that is refused has a key that is refused. -/
theorem exists_key_of_resolve_eq_error
    {lookup : KeyType → Except Fault Symbol}
    {plan : Plan KeyType}
    {fault : Fault}
    (refused : plan.resolve lookup = .error fault) :
    ∃ step ∈ plan.allSteps, ∃ key ∈ step.action.key?,
      lookup key = .error fault := by
  obtain ⟨earlier, entry, later, shape, _, entryRefused⟩ :=
    Outcome.mapM_eq_error (Outcome.eq_error_of_map refused)
  obtain ⟨step, inEntry, key, isKey, keyRefused⟩ :=
    Entry.exists_key_of_resolve_eq_error entryRefused
  refine ⟨step, List.mem_flatMap.mpr ⟨entry, ?_, inEntry⟩, key, isKey,
    keyRefused⟩
  rw [shape]
  exact List.mem_append_right earlier List.mem_cons_self

/-- A plan is resolved likewise if its keys are looked up elsewhere. -/
theorem resolve_of_agree
    {lookup other : KeyType → Except Fault Symbol}
    (agree : ∀ key symbol, lookup key = .ok symbol → other key = .ok symbol)
    {plan : Plan KeyType}
    {resolved : Plan Symbol}
    (resolves : plan.resolve lookup = .ok resolved) :
    plan.resolve other = .ok resolved := by
  obtain ⟨entriesResolve, rest⟩ := resolve_eq_ok.mp resolves
  exact resolve_eq_ok.mpr
    ⟨entriesResolve.imp fun _ _ => Entry.resolve_of_agree agree, rest⟩

/-- Resolving a plan has the faults of looking up keys. -/
theorem faultsOnly_resolve
    {allowed : Fault → Prop}
    {lookup : KeyType → Except Fault Symbol}
    (lookupFaults : ∀ key, Outcome.FaultsOnly allowed (lookup key))
    (plan : Plan KeyType) :
    Outcome.FaultsOnly allowed (plan.resolve lookup) :=
  (Outcome.FaultsOnly.mapM
    (Entry.faultsOnly_resolve lookupFaults) plan.entries).map _

/-- The steps of a plan of steps. -/
@[simp] theorem allSteps_ofSteps
    (steps : List (Step KeyType)) :
    (ofSteps steps).allSteps = steps := by
  induction steps with
  | nil =>
      rfl
  | cons step rest inductionHypothesis =>
      change step :: (ofSteps rest).allSteps = step :: rest
      rw [inductionHypothesis]

/-- The steps of a plan with a loop only. -/
@[simp] theorem allSteps_loop
    (remark : String)
    (count : UInt64)
    (steps : List (Step KeyType))
    (change : Change)
    (notices : List Record) :
    allSteps
        { entries := [.remark remark, .loop count steps]
          change := change
          notices := notices } =
      steps := by
  simp [allSteps, Entry.allSteps]

/-- The steps outside of loops are among the steps of a plan. -/
theorem mem_allSteps_of_mem_steps
    {plan : Plan KeyType}
    {step : Step KeyType}
    (member : step ∈ plan.steps) :
    step ∈ plan.allSteps := by
  obtain ⟨entry, entryMember, isStep⟩ := List.mem_filterMap.mp member
  refine List.mem_flatMap.mpr ⟨entry, entryMember, ?_⟩
  cases entry with
  | perform performed =>
      cases isStep
      exact List.mem_cons_self
  | remark text =>
      cases isStep
  | aside text =>
      cases isStep
  | loop count steps =>
      cases isStep

end Plan

namespace KeyName

/-- A key that can be typed with symbols for the given kinds. -/
def Known
    (known : Kind → Prop) :
    KeyName → Prop
  | .known key => known (.key key)
  | .spelled _ => True

end KeyName

namespace Device

/-- A device knows the kinds that its vocabulary has a symbol for. -/
def Knows
    (device : Device)
    (kind : Kind) :
    Prop :=
  (device.vocabulary.symbol? kind).isSome

end Device

namespace Command

/-- A device has a symbol for the keys that it knows. -/
theorem succeeds_symbolFor
    {command : Command}
    {device : Device}
    {key : KeyName} :
    Outcome.Succeeds (command.symbolFor device key) ↔
      key.Known device.Knows := by
  cases key with
  | spelled token =>
      simp [symbolFor, KeyName.Known, Outcome.Succeeds]
  | known key =>
      simp only [symbolFor, KeyName.Known, Device.Knows]
      cases device.vocabulary.symbol? (.key key) with
      | none =>
          simp [Outcome.Succeeds]
      | some symbol =>
          simp [Outcome.Succeeds]

/-- A plan can be carried out on a device that knows all of its keys. -/
theorem succeeds_resolve_symbolFor
    {command : Command}
    {device : Device}
    {plan : Plan KeyName} :
    Outcome.Succeeds (plan.resolve (command.symbolFor device)) ↔
      plan.UsesOnly (KeyName.Known device.Knows) := by
  simp only [Plan.succeeds_resolve, Plan.UsesOnly, succeeds_symbolFor]

/-- The keys of a plan have the same symbols for every command. -/
theorem resolve_symbolFor_congr
    {first : Command}
    (second : Command)
    {device : Device}
    {named : Plan KeyName}
    {plan : Plan String}
    (resolves : named.resolve (first.symbolFor device) = .ok plan) :
    named.resolve (second.symbolFor device) = .ok plan := by
  refine Plan.resolve_of_agree (fun key symbol found => ?_) resolves
  cases key with
  | spelled token =>
      exact found
  | known key =>
      simp only [symbolFor] at found ⊢
      cases hasSymbol : device.vocabulary.symbol? (.key key) with
      | none =>
          rw [hasSymbol] at found
          cases found
      | some symbol =>
          rw [hasSymbol] at found
          exact found

/--
The plan for a device is a plan with its keys resolved.  Whose keys they are
matters only if one of them has no symbol.
-/
theorem planFor_eq_ok
    {device : Device}
    {pause : Text.Milliseconds}
    {previous? : Option Command}
    {command : Command}
    {resolved : Plan String} :
    command.planFor device pause previous? = .ok resolved ↔
      ∃ named,
        command.plan pause previous? = .ok named ∧
          named.resolve (command.symbolFor device) = .ok resolved := by
  rw [planFor, Outcome.bind_eq_ok]
  constructor
  · rintro ⟨named, planned, resolves⟩
    exact ⟨named, planned, resolve_symbolFor_congr command resolves⟩
  · rintro ⟨named, planned, resolves⟩
    exact ⟨named, planned, resolve_symbolFor_congr _ resolves⟩

/-- A command that is no repetition performs its own steps. -/
theorem performed_of_ne_replay
    {previous? : Option Command}
    {command : Command}
    (kind : command.kind ≠ .replay) :
    command.performed previous? = command :=
  if_neg kind

/-- The keys of a chord are the keys it is made of. -/
theorem usesOnly_chord
    {allowed : KeyName → Prop}
    {keys : List (KeyName × String)} :
    (Plan.ofSteps (chord keys)).UsesOnly allowed ↔
      ∀ entry ∈ keys, allowed entry.1 := by
  rw [Plan.UsesOnly, Plan.allSteps_ofSteps]
  constructor
  · intro everyStep entry member
    have pressed :
        Step.noted (.press entry.1) ("Press " ++ entry.2) ∈ chord keys :=
      List.mem_append_left _ (List.mem_map_of_mem member)
    exact everyStep _ pressed entry.1 rfl
  · intro everyKey step member key isKey
    rcases List.mem_append.mp member with isPress | isRelease
    · obtain ⟨entry, entryMember, shape⟩ := List.mem_map.mp isPress
      subst shape
      cases isKey
      exact everyKey entry entryMember
    · obtain ⟨entry, entryMember, shape⟩ := List.mem_map.mp isRelease
      subst shape
      cases isKey
      exact everyKey entry (List.mem_reverse.mp entryMember)

/-- A repetition performs the steps of the plan that is repeated, or none. -/
theorem idle_or_mem_of_mem_repeatedSteps
    {plan : Plan KeyName}
    {step : Step KeyName}
    (member : step ∈ repeatedSteps plan) :
    step = .plain .idle ∨ step ∈ plan.allSteps := by
  unfold repeatedSteps at member
  split at member
  · exact .inl (List.mem_singleton.mp member)
  · exact .inr (Plan.mem_allSteps_of_mem_steps member)

/-- A repetition uses no keys but those of the plan that is repeated. -/
theorem usesOnly_loop
    {allowed : KeyName → Prop}
    {repeated : Plan KeyName}
    (uses : repeated.UsesOnly allowed)
    (remark : String)
    (count : UInt64)
    (notices : List Record) :
    Plan.UsesOnly allowed
      { entries := [.remark remark, .loop count (repeatedSteps repeated)]
        change := .nothing
        notices := notices } := by
  intro step member key isKey
  rw [Plan.allSteps_loop] at member
  rcases idle_or_mem_of_mem_repeatedSteps member with isIdle | inPlan
  · rw [isIdle] at isKey
    cases isKey
  · exact uses step inPlan key isKey

end Command

end Keystroke
