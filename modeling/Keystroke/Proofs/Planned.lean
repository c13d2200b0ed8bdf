import Keystroke.Plan.Planning
import Keystroke.Proofs.Outcome

namespace Keystroke

/-!
# The plans that commands have

`Planned` lists, for every kind of command, what its parameters have to be and
which plan the command then has.  It holds exactly of the plans that planning
returns, so that a fact about all plans is proved by going through the list and
not through the code that makes them.
-/

namespace Command

/-- A required parameter is the first one. -/
theorem required_eq_ok
    {command : Command}
    {what value : String} :
    command.required what = .ok value ↔
      command.firstParameter? = some value := by
  unfold required
  cases command.firstParameter? with
  | none =>
      simp
  | some first =>
      simp

/-- The values of parameters that are durations. -/
structure ReadsAsDuration
    (value : String)
    (number : Int) :
    Prop where
  reads : Text.integer? (Text.trim value) = some number
  notNegative : 0 ≤ number

/-- A duration is a parameter that reads as an integer that is not negative. -/
theorem duration_eq_ok
    {command : Command}
    {role : DurationRole}
    {parameter? : Option String}
    {time : Text.Milliseconds} :
    command.duration role parameter? = .ok time ↔
      ∃ value number,
        parameter? = some value ∧
          ReadsAsDuration value number ∧
          time = UInt64.ofNat number.toNat := by
  cases parameter? with
  | none =>
      have refused :
          command.duration role none =
            .error (command.fault (.invalidDuration role "None")) :=
        rfl
      simp [refused]
  | some value =>
      simp only [duration, Option.getD_some]
      cases reading : Text.integer? (Text.trim value) with
      | none =>
          constructor
          · intro impossible
            cases impossible
          · rintro ⟨_, number, same, ⟨reads, _⟩, _⟩
            cases same
            rw [reading] at reads
            cases reads
      | some found =>
          constructor
          · intro accepted
            by_cases negative : found < 0
            · simp [negative] at accepted
            · simp only [negative, ↓reduceIte, Except.ok.injEq] at accepted
              exact ⟨value, found, rfl,
                ⟨reading, Int.not_lt.mp negative⟩, accepted.symm⟩
          · rintro ⟨_, number, same, ⟨reads, notNegative⟩, timeShape⟩
            cases same
            rw [reading] at reads
            cases reads
            simp [Int.not_lt.mpr notNegative, timeShape]

/--
The commands with a plan of their own, and their plans.  A repetition is not
among them, because its plan is made from the command before it.
-/
inductive Planned
    (pause : Text.Milliseconds)
    (command : Command) :
    Plan KeyName → Prop where
  | key
      {key : Key} :
      command.kind = .key key →
      Planned pause command (keyPlan key)
  | delay
      {value : String}
      {number : Int}
      {time : Text.Milliseconds} :
      command.kind = .delay →
      command.firstParameter? = some value →
      ReadsAsDuration value number →
      time = UInt64.ofNat number.toNat →
      Planned pause command
        (.ofSteps
          [.noted (.wait time)
            ("Delay for " ++ Text.wordNumeral time ++ "ms")])
  | text
      {value : String} :
      command.kind = .text →
      command.firstParameter? = some value →
      Planned pause command
        (.ofSteps [.noted (.typeText value) ("Type: " ++ value)])
  | combination :
      command.kind = .combination →
      command.parameters ≠ [] →
      Planned pause command
        (.ofSteps
          (chord (command.parameters.map fun token =>
            (KeyName.ofToken token, token))))
  | pause :
      command.kind = .pause →
      Planned pause command (pausePlan pause)
  | safeModeOn
      {value : String} :
      command.kind = .safeMode →
      command.firstParameter? = some value →
      Text.upper value = "ON" →
      Planned pause command
        (switchPlan true "SAFE_MODE: Enabled safe mode restrictions")
  | safeModeOff
      {value : String} :
      command.kind = .safeMode →
      command.firstParameter? = some value →
      Text.upper value = "OFF" →
      Planned pause command
        (switchPlan false "SAFE_MODE: Disabled safe mode restrictions")
  | attackModeKeyboard
      {value : String} :
      command.kind = .attackMode →
      command.firstParameter? = some value →
      Text.contains (Text.upper value) "HID" →
      Planned pause command
        (.ofEntries
          [.remark
              ("ATTACKMODE: Configured for HID emulation (" ++
                Text.upper value ++ ")"),
            .remark "Note: This device is configured as a HID keyboard",
            .remark ("Configuration: " ++ Text.upper value)])
  | attackModeStorage
      {value : String} :
      command.kind = .attackMode →
      command.firstParameter? = some value →
      ¬ Text.contains (Text.upper value) "HID" →
      Text.contains (Text.upper value) "STORAGE" →
      Planned pause command
        (.ofEntries
          [.remark
              ("ATTACKMODE: Configured for storage emulation (" ++
                Text.upper value ++ ")"),
            .remark "Note: This device is configured as a storage device",
            .remark ("Configuration: " ++ Text.upper value)])
  | attackModeOn
      {value : String} :
      command.kind = .attackMode →
      command.firstParameter? = some value →
      Text.upper value = "ON" →
      Planned pause command
        (switchPlan true "ATTACKMODE: Enabled attack mode")
  | attackModeOff
      {value : String} :
      command.kind = .attackMode →
      command.firstParameter? = some value →
      Text.upper value = "OFF" →
      Planned pause command
        (switchPlan false "ATTACKMODE: Disabled attack mode")
  | attackModeOther
      {value : String} :
      command.kind = .attackMode →
      command.firstParameter? = some value →
      ¬ Text.contains (Text.upper value) "HID" →
      ¬ Text.contains (Text.upper value) "STORAGE" →
      Text.upper value ≠ "ON" →
      Text.upper value ≠ "OFF" →
      Planned pause command
        (.ofEntries
          [.remark
              ("ATTACKMODE: Configured with '" ++ Text.upper value ++ "'"),
            .remark ("Configuration: " ++ Text.upper value)])
  | comment :
      command.kind = .comment ∨ command.kind = .remark →
      Planned pause command
        (.ofEntries [.remark (command.firstParameter?.getD "")])
  | defaultDelay
      {value : String}
      {number : Int}
      {time : Text.Milliseconds} :
      command.kind = .defaultDelay →
      command.firstParameter? = some value →
      ReadsAsDuration value number →
      time = UInt64.ofNat number.toNat →
      Planned pause command
        { entries :=
            [.remark
              ("DEFAULT_DELAY: Set default delay to " ++
                Text.wordNumeral time ++ "ms between commands")]
          change := .defaultDelay time
          notices := [] }
  | randomDelay
      {first second : String}
      {others : List String}
      {lower upper : Int}
      {least most : Text.Milliseconds} :
      command.kind = .randomDelay →
      command.parameters = first :: second :: others →
      ReadsAsDuration first lower →
      ReadsAsDuration second upper →
      least = UInt64.ofNat lower.toNat →
      most = UInt64.ofNat upper.toNat →
      least ≤ most →
      Planned pause command
        (.ofEntries
          [.remark
              ("RANDOM_DELAY: Random delay between " ++
                Text.wordNumeral least ++ "ms and " ++
                Text.wordNumeral most ++ "ms"),
            .perform (.plain (.waitBetween least most))])
  | log
      {message : String} :
      command.kind = .log →
      command.firstParameter? = some message →
      Planned pause command
        (.ofEntries
          [.remark ("LOG: " ++ message),
            .perform (.plain (.print ("Log: " ++ message)))])
  | validate
      {condition : String} :
      command.kind = .validate →
      command.firstParameter? = some condition →
      Planned pause command
        (.ofEntries
          [.remark
              ("VALIDATE: Check environment condition '" ++ condition ++ "'"),
            .remark "Placeholder: the condition is not evaluated",
            .perform (.plain (.print ("Validating: " ++ condition)))])
  | branch
      {condition : String} :
      command.kind = .branch →
      command.firstParameter? = some condition →
      Planned pause command
        (.ofEntries
          [.remark
              ("IF: Conditional execution based on '" ++ condition ++
                "' (placeholder, always true)"),
            .perform (.plain (.branchAlways condition))])
  | otherwise :
      command.kind = .otherwise →
      Planned pause command
        (.ofEntries
          [.remark "ELSE: Alternative execution path (placeholder)"])
  | endBranch :
      command.kind = .endBranch →
      Planned pause command
        (.ofEntries [.remark "ENDIF: End conditional block"])
  | loop
      {condition : String} :
      command.kind = .loop →
      command.firstParameter? = some condition →
      Planned pause command
        (.ofEntries
          [.remark
              ("WHILE: Loop execution based on '" ++ condition ++
                "' (placeholder, runs once)"),
            .perform (.plain (.loopOnce condition))])
  | endLoop :
      command.kind = .endLoop →
      Planned pause command
        (.ofEntries [.remark "ENDWHILE: End loop block"])
  | custom
      {name : String} :
      command.kind = .custom name →
      Planned pause command (command.customPlan name)

section Planning

variable
  {pause : Text.Milliseconds}
  {command : Command}
  {plan : Plan KeyName}

/-- A safe mode command has the plan of a switch. -/
private theorem planned_safeModePlan
    (kind : command.kind = .safeMode)
    (planned : command.safeModePlan = .ok plan) :
    Planned pause command plan := by
  simp only [safeModePlan, Outcome.bind_eq_ok, required_eq_ok] at planned
  obtain ⟨value, parameter, planned⟩ := planned
  split at planned
  · rename_i isOn
    cases planned
    exact .safeModeOn kind parameter isOn
  · split at planned
    · rename_i isOff
      cases planned
      exact .safeModeOff kind parameter isOff
    · cases planned

/-- An attack mode has one of five plans. -/
private theorem planned_attackModePlan
    (kind : command.kind = .attackMode)
    (planned : command.attackModePlan = .ok plan) :
    Planned pause command plan := by
  simp only [attackModePlan, Outcome.bind_eq_ok, required_eq_ok] at planned
  obtain ⟨value, parameter, planned⟩ := planned
  split at planned
  · rename_i keyboard
    cases planned
    exact .attackModeKeyboard kind parameter keyboard
  rename_i notKeyboard
  split at planned
  · rename_i storage
    cases planned
    exact .attackModeStorage kind parameter notKeyboard storage
  rename_i notStorage
  split at planned
  · rename_i isOn
    cases planned
    exact .attackModeOn kind parameter isOn
  rename_i notOn
  split at planned
  · rename_i isOff
    cases planned
    exact .attackModeOff kind parameter isOff
  rename_i notOff
  cases planned
  exact .attackModeOther kind parameter notKeyboard notStorage notOn notOff

/-- A random delay has two bounds in order. -/
private theorem planned_randomDelayPlan
    (kind : command.kind = .randomDelay)
    (planned : command.randomDelayPlan = .ok plan) :
    Planned pause command plan := by
  unfold randomDelayPlan at planned
  split at planned
  · rename_i first second others parameters
    simp only [Outcome.bind_eq_ok, duration_eq_ok] at planned
    obtain ⟨least, ⟨_, lower, sameFirst, firstReads, leastShape⟩,
      most, ⟨_, upper, sameSecond, secondReads, mostShape⟩,
      planned⟩ := planned
    cases sameFirst
    cases sameSecond
    split at planned
    · cases planned
    · rename_i ordered
      cases planned
      exact .randomDelay kind parameters firstReads secondReads
        leastShape mostShape (UInt64.not_lt.mp ordered)
  · cases planned

/-- Every plan that planning returns is in the list. -/
theorem planned_of_directPlan
    (planned : command.directPlan pause = .ok plan) :
    Planned pause command plan := by
  cases kind : command.kind with
  | key key =>
      simp only [directPlan, kind] at planned
      cases planned
      exact .key kind
  | delay =>
      simp only [directPlan, kind, delayPlan, Outcome.bind_eq_ok,
        duration_eq_ok] at planned
      obtain ⟨time, ⟨value, number, parameter, reads, timeShape⟩, shape⟩ :=
        planned
      cases shape
      exact .delay kind parameter reads timeShape
  | text =>
      simp only [directPlan, kind, textPlan, Outcome.bind_eq_ok,
        required_eq_ok] at planned
      obtain ⟨value, parameter, shape⟩ := planned
      cases shape
      exact .text kind parameter
  | combination =>
      simp only [directPlan, kind, combinationPlan] at planned
      split at planned
      · cases planned
      · rename_i notEmpty
        cases planned
        exact .combination kind (by simpa using notEmpty)
  | pause =>
      simp only [directPlan, kind] at planned
      cases planned
      exact .pause kind
  | safeMode =>
      simp only [directPlan, kind] at planned
      exact planned_safeModePlan kind planned
  | attackMode =>
      simp only [directPlan, kind] at planned
      exact planned_attackModePlan kind planned
  | comment =>
      simp only [directPlan, kind] at planned
      cases planned
      exact .comment (.inl kind)
  | remark =>
      simp only [directPlan, kind] at planned
      cases planned
      exact .comment (.inr kind)
  | replay =>
      simp only [directPlan, kind] at planned
      cases planned
  | defaultDelay =>
      simp only [directPlan, kind, defaultDelayPlan, Outcome.bind_eq_ok,
        duration_eq_ok] at planned
      obtain ⟨time, ⟨value, number, parameter, reads, timeShape⟩, shape⟩ :=
        planned
      cases shape
      exact .defaultDelay kind parameter reads timeShape
  | randomDelay =>
      simp only [directPlan, kind] at planned
      exact planned_randomDelayPlan kind planned
  | log =>
      simp only [directPlan, kind, logPlan, Outcome.bind_eq_ok,
        required_eq_ok] at planned
      obtain ⟨message, parameter, shape⟩ := planned
      cases shape
      exact .log kind parameter
  | validate =>
      simp only [directPlan, kind, validatePlan, Outcome.bind_eq_ok,
        required_eq_ok] at planned
      obtain ⟨condition, parameter, shape⟩ := planned
      cases shape
      exact .validate kind parameter
  | branch =>
      simp only [directPlan, kind, branchPlan, Outcome.bind_eq_ok,
        required_eq_ok] at planned
      obtain ⟨condition, parameter, shape⟩ := planned
      cases shape
      exact .branch kind parameter
  | otherwise =>
      simp only [directPlan, kind] at planned
      cases planned
      exact .otherwise kind
  | endBranch =>
      simp only [directPlan, kind] at planned
      cases planned
      exact .endBranch kind
  | loop =>
      simp only [directPlan, kind, loopPlan, Outcome.bind_eq_ok,
        required_eq_ok] at planned
      obtain ⟨condition, parameter, shape⟩ := planned
      cases shape
      exact .loop kind parameter
  | endLoop =>
      simp only [directPlan, kind] at planned
      cases planned
      exact .endLoop kind
  | custom name =>
      simp only [directPlan, kind] at planned
      cases planned
      exact .custom kind

/-- Every plan in the list is returned by planning. -/
theorem Planned.directPlan
    (planned : Planned pause command plan) :
    command.directPlan pause = .ok plan := by
  cases planned with
  | key kind =>
      simp [Command.directPlan, kind]
  | delay kind parameter reads timeShape =>
      have accepted :
          command.duration .delay command.firstParameter? = .ok _ :=
        duration_eq_ok.mpr ⟨_, _, parameter, reads, timeShape⟩
      simp only [Command.directPlan, kind, delayPlan, accepted]
      rfl
  | text kind parameter =>
      simp only [Command.directPlan, kind, textPlan,
        required_eq_ok.mpr parameter]
      rfl
  | combination kind notEmpty =>
      simp [Command.directPlan, kind, combinationPlan, notEmpty]
  | pause kind =>
      simp [Command.directPlan, kind]
  | safeModeOn kind parameter isOn =>
      simp only [Command.directPlan, kind, safeModePlan,
        required_eq_ok.mpr parameter, bind, Except.bind, isOn, ↓reduceIte]
      rfl
  | safeModeOff kind parameter isOff =>
      simp only [Command.directPlan, kind, safeModePlan,
        required_eq_ok.mpr parameter, bind, Except.bind, isOff, ↓reduceIte]
      rfl
  | attackModeKeyboard kind parameter keyboard =>
      simp only [Command.directPlan, kind, attackModePlan,
        required_eq_ok.mpr parameter, bind, Except.bind, keyboard, ↓reduceIte]
      rfl
  | attackModeStorage kind parameter notKeyboard storage =>
      simp only [Command.directPlan, kind, attackModePlan,
        required_eq_ok.mpr parameter, bind, Except.bind, notKeyboard, storage,
        ↓reduceIte]
      rfl
  | attackModeOn kind parameter isOn =>
      simp only [Command.directPlan, kind, attackModePlan,
        required_eq_ok.mpr parameter, bind, Except.bind, isOn]
      rfl
  | attackModeOff kind parameter isOff =>
      simp only [Command.directPlan, kind, attackModePlan,
        required_eq_ok.mpr parameter, bind, Except.bind, isOff]
      rfl
  | attackModeOther kind parameter notKeyboard notStorage notOn notOff =>
      simp only [Command.directPlan, kind, attackModePlan,
        required_eq_ok.mpr parameter, bind, Except.bind, notKeyboard,
        notStorage, notOn, notOff, ↓reduceIte]
      rfl
  | comment kind =>
      rcases kind with isComment | isRemark
      · simp [Command.directPlan, isComment]
      · simp [Command.directPlan, isRemark]
  | defaultDelay kind parameter reads timeShape =>
      have accepted :
          command.duration .defaultDelay command.firstParameter? = .ok _ :=
        duration_eq_ok.mpr ⟨_, _, parameter, reads, timeShape⟩
      simp only [Command.directPlan, kind, defaultDelayPlan, accepted]
      rfl
  | randomDelay kind parameters firstReads secondReads leastShape mostShape
      ordered =>
      have leastAccepted :
          command.duration .randomDelay (some _) = .ok _ :=
        duration_eq_ok.mpr ⟨_, _, rfl, firstReads, leastShape⟩
      have mostAccepted :
          command.duration .randomDelay (some _) = .ok _ :=
        duration_eq_ok.mpr ⟨_, _, rfl, secondReads, mostShape⟩
      simp only [Command.directPlan, kind, randomDelayPlan, parameters,
        leastAccepted, mostAccepted, bind, Except.bind,
        UInt64.not_lt.mpr ordered, ↓reduceIte]
      rfl
  | log kind parameter =>
      simp only [Command.directPlan, kind, logPlan,
        required_eq_ok.mpr parameter]
      rfl
  | validate kind parameter =>
      simp only [Command.directPlan, kind, validatePlan,
        required_eq_ok.mpr parameter]
      rfl
  | branch kind parameter =>
      simp only [Command.directPlan, kind, branchPlan,
        required_eq_ok.mpr parameter]
      rfl
  | otherwise kind =>
      simp [Command.directPlan, kind]
  | endBranch kind =>
      simp [Command.directPlan, kind]
  | loop kind parameter =>
      simp only [Command.directPlan, kind, loopPlan,
        required_eq_ok.mpr parameter]
      rfl
  | endLoop kind =>
      simp [Command.directPlan, kind]
  | custom kind =>
      simp [Command.directPlan, kind]

/-- A repetition is not in the list. -/
theorem Planned.kind_ne_replay
    (planned : Planned pause command plan) :
    command.kind ≠ .replay := by
  intro isReplay
  have refused := planned.directPlan
  simp [Command.directPlan, isReplay] at refused

/-- The plan of a repetition: a loop over the steps of a plan in the list. -/
inductive Replayed
    (pause : Text.Milliseconds)
    (previous? : Option Command)
    (command : Command) :
    Plan KeyName → Prop where
  | replay
      {value : String}
      {count : Int}
      {previous : Command}
      {repeated : Plan KeyName} :
      command.kind = .replay →
      command.firstParameter? = some value →
      Text.integer? (Text.trim value) = some count →
      1 ≤ count →
      previous? = some previous →
      Planned pause previous repeated →
      Replayed pause previous? command
        { entries :=
            [.remark
                ("REPEAT: Repeating last command " ++ count.repr ++ " times"),
              .loop (UInt64.ofNat count.toNat) (repeatedSteps repeated)]
          change := .nothing
          notices := repeated.notices }

/-- Every plan that is returned for a repetition is a loop. -/
private theorem replayed_of_replayPlan
    {previous? : Option Command}
    (kind : command.kind = .replay)
    (planned : command.replayPlan pause previous? = .ok plan) :
    Replayed pause previous? command plan := by
  simp only [replayPlan, Outcome.bind_eq_ok, required_eq_ok] at planned
  obtain ⟨value, parameter, planned⟩ := planned
  cases reading : Text.integer? (Text.trim value) with
  | none =>
      simp [reading] at planned
  | some count =>
      simp only [reading] at planned
      split at planned
      · cases planned
      rename_i atLeastOne
      cases previousShape : previous? with
      | none =>
          simp [previousShape] at planned
      | some previous =>
          simp only [previousShape] at planned
          split at planned
          · cases planned
          simp only [Outcome.bind_eq_ok] at planned
          obtain ⟨repeated, repeatedPlan, shape⟩ := planned
          cases shape
          exact .replay kind parameter reading (Int.not_lt.mp atLeastOne)
            rfl (planned_of_directPlan repeatedPlan)

/-- Every loop over a plan in the list is returned for a repetition. -/
theorem Replayed.replayPlan
    {previous? : Option Command}
    (replayed : Replayed pause previous? command plan) :
    command.replayPlan pause previous? = .ok plan := by
  cases replayed with
  | replay kind parameter reads atLeastOne previousShape repeatedPlanned =>
      subst previousShape
      simp only [Command.replayPlan, required_eq_ok.mpr parameter, bind,
        Except.bind, reads, Int.not_lt.mpr atLeastOne, ↓reduceIte,
        repeatedPlanned.kind_ne_replay, repeatedPlanned.directPlan]
      rfl

/-- A plan is one of the list, or a loop over one of the list. -/
theorem plan_eq_ok
    {previous? : Option Command} :
    command.plan pause previous? = .ok plan ↔
      Planned pause command plan ∨
        Replayed pause previous? command plan := by
  constructor
  · intro planned
    by_cases kind : command.kind = .replay
    · simp only [Command.plan, kind, ↓reduceIte] at planned
      exact .inr (replayed_of_replayPlan kind planned)
    · simp only [Command.plan, kind, ↓reduceIte] at planned
      exact .inl (planned_of_directPlan planned)
  · rintro (planned | replayed)
    · simp [Command.plan, planned.kind_ne_replay, planned.directPlan]
    · have returned := replayed.replayPlan
      cases replayed with
      | replay kind =>
          simp [Command.plan, kind, returned]

end Planning

end Command

end Keystroke
