import Keystroke.Plan.Action
import Keystroke.Plan.Fault
import Keystroke.Plan.KeyName
import Keystroke.Text.Case
import Keystroke.Text.Integer
import Keystroke.Text.Search
import Keystroke.Text.Space

namespace Keystroke.Command

/-!
# Making a plan for a command

The plan of a command depends on the command, on the length of a pause and, for
a repetition, on the command before it.  It does not depend on the device, on
the family or on how verbose the program is.
-/

/-- The first parameter, which has to be there. -/
def required
    (command : Command)
    (what : String) :
    Except EncodeFault String :=
  match command.firstParameter? with
  | some value =>
      .ok value
  | none =>
      .error (command.fault (.missingParameter command.kind what))

/-- A parameter read as a duration; a missing one reads as `None`. -/
def duration
    (command : Command)
    (role : DurationRole)
    (parameter? : Option String) :
    Except EncodeFault Text.Milliseconds :=
  let value := parameter?.getD "None"
  match Text.integer? (Text.trim value) with
  | none =>
      .error (command.fault (.invalidDuration role value))
  | some number =>
      if number < 0 then
        .error (command.fault (.negativeDuration role))
      else
        .ok (UInt64.ofNat number.toNat)

/-- Press keys in order and release them in the opposite order. -/
def chord
    (keys : List (KeyName × String)) :
    List (Step KeyName) :=
  (keys.map fun (key, name) => Step.noted (.press key) ("Press " ++ name)) ++
    keys.reverse.map fun (key, name) =>
      Step.noted (.release key) ("Release " ++ name)

/-- Wait for a given time. -/
def delayPlan
    (command : Command) :
    Except EncodeFault (Plan KeyName) := do
  let time ← command.duration .delay command.firstParameter?
  pure (.ofSteps
    [.noted (.wait time) ("Delay for " ++ Text.wordNumeral time ++ "ms")])

/-- Type a text. -/
def textPlan
    (command : Command) :
    Except EncodeFault (Plan KeyName) := do
  let text ← command.required "text"
  pure (.ofSteps [.noted (.typeText text) ("Type: " ++ text)])

/-- Press and release a combination of keys. -/
def combinationPlan
    (command : Command) :
    Except EncodeFault (Plan KeyName) :=
  if command.parameters.isEmpty then
    .error (command.fault (.missingParameter .combination "parameters"))
  else
    .ok (.ofSteps
      (chord (command.parameters.map fun token =>
        (KeyName.ofToken token, token))))

/-- Press and release one key. -/
def keyPlan
    (key : Key) :
    Plan KeyName :=
  .ofSteps (chord [(.known key, key.keyword)])

/-- Wait for a fixed time in place of a key press of the user. -/
def pausePlan
    (pause : Text.Milliseconds) :
    Plan KeyName :=
  .ofEntries
    [.aside "PAUSE: Waiting for user action",
      .aside "The device cannot detect a keypress, so a fixed wait is used",
      .perform (.noted (.wait pause)
        ("Pause for " ++ Text.wordNumeral pause ++ "ms"))]

/-- Switch safe mode, with a remark. -/
def switchPlan
    (enabled : Bool)
    (remark : String) :
    Plan KeyName where
  entries := [.remark remark, .perform (.plain (.recordSafeMode enabled))]
  change := .safeMode enabled
  notices := []

/-- Switch safe mode on or off. -/
def safeModePlan
    (command : Command) :
    Except EncodeFault (Plan KeyName) := do
  let value ← command.required "ON/OFF value"
  if Text.upper value = "ON" then
    pure (switchPlan true "SAFE_MODE: Enabled safe mode restrictions")
  else if Text.upper value = "OFF" then
    pure (switchPlan false "SAFE_MODE: Disabled safe mode restrictions")
  else
    .error (command.fault .neitherOnNorOff)

/--
Remark on the configured mode.  The modes `ON` and `OFF` are an older way to
switch safe mode.
-/
def attackModePlan
    (command : Command) :
    Except EncodeFault (Plan KeyName) := do
  let value ← command.required "configuration"
  let mode := Text.upper value
  if Text.contains mode "HID" then
    pure (.ofEntries
      [.remark ("ATTACKMODE: Configured for HID emulation (" ++ mode ++ ")"),
        .remark "Note: This device is configured as a HID keyboard",
        .remark ("Configuration: " ++ mode)])
  else if Text.contains mode "STORAGE" then
    pure (.ofEntries
      [.remark
          ("ATTACKMODE: Configured for storage emulation (" ++ mode ++ ")"),
        .remark "Note: This device is configured as a storage device",
        .remark ("Configuration: " ++ mode)])
  else if mode = "ON" then
    pure (switchPlan true "ATTACKMODE: Enabled attack mode")
  else if mode = "OFF" then
    pure (switchPlan false "ATTACKMODE: Disabled attack mode")
  else
    pure (.ofEntries
      [.remark ("ATTACKMODE: Configured with '" ++ mode ++ "'"),
        .remark ("Configuration: " ++ mode)])

/-- Set the delay after the following commands. -/
def defaultDelayPlan
    (command : Command) :
    Except EncodeFault (Plan KeyName) := do
  let time ← command.duration .defaultDelay command.firstParameter?
  pure
    { entries :=
        [.remark
          ("DEFAULT_DELAY: Set default delay to " ++ Text.wordNumeral time ++
            "ms between commands")]
      change := .defaultDelay time
      notices := [] }

/-- Wait for a random time between two bounds. -/
def randomDelayPlan
    (command : Command) :
    Except EncodeFault (Plan KeyName) :=
  match command.parameters with
  | first :: second :: _ => do
      let least ← command.duration .randomDelay (some first)
      let most ← command.duration .randomDelay (some second)
      if most < least then
        .error (command.fault .emptyRange)
      else
        pure (.ofEntries
          [.remark
              ("RANDOM_DELAY: Random delay between " ++
                Text.wordNumeral least ++ "ms and " ++
                Text.wordNumeral most ++ "ms"),
            .perform (.plain (.waitBetween least most))])
  | _ =>
      .error (command.fault (.missingParameter .randomDelay "min/max values"))

/-- Print a message while the program runs. -/
def logPlan
    (command : Command) :
    Except EncodeFault (Plan KeyName) := do
  let message ← command.required "message"
  pure (.ofEntries
    [.remark ("LOG: " ++ message),
      .perform (.plain (.print ("Log: " ++ message)))])

/-- Print a condition, which is not evaluated. -/
def validatePlan
    (command : Command) :
    Except EncodeFault (Plan KeyName) := do
  let condition ← command.required "condition"
  pure (.ofEntries
    [.remark ("VALIDATE: Check environment condition '" ++ condition ++ "'"),
      .remark "Placeholder: the condition is not evaluated",
      .perform (.plain (.print ("Validating: " ++ condition)))])

/-- An inert branch that shows its condition. -/
def branchPlan
    (command : Command) :
    Except EncodeFault (Plan KeyName) := do
  let condition ← command.required "condition"
  pure (.ofEntries
    [.remark
        ("IF: Conditional execution based on '" ++ condition ++
          "' (placeholder, always true)"),
      .perform (.plain (.branchAlways condition))])

/-- An inert loop that shows its condition. -/
def loopPlan
    (command : Command) :
    Except EncodeFault (Plan KeyName) := do
  let condition ← command.required "condition"
  pure (.ofEntries
    [.remark
        ("WHILE: Loop execution based on '" ++ condition ++
          "' (placeholder, runs once)"),
      .perform (.plain (.loopOnce condition))])

/-- Do nothing for a kind without an encoding, and say so in the log. -/
def customPlan
    (command : Command)
    (name : String) :
    Plan KeyName where
  entries :=
    [.aside ("WARNING: Unknown command '" ++ name ++ "'"),
      .perform (.plain .idle)]
  change := .nothing
  notices :=
    [{ level := .warn
       message :=
        "line " ++ command.line.repr ++ ": no encoding for command '" ++
          name ++ "'" }]

/--
The plan of a command that does not depend on the command before it.  A
repetition has no plan of its own.
-/
def directPlan
    (pause : Text.Milliseconds)
    (command : Command) :
    Except EncodeFault (Plan KeyName) :=
  match command.kind with
  | .key key => .ok (keyPlan key)
  | .delay => command.delayPlan
  | .text => command.textPlan
  | .combination => command.combinationPlan
  | .pause => .ok (pausePlan pause)
  | .safeMode => command.safeModePlan
  | .attackMode => command.attackModePlan
  | .comment | .remark =>
      .ok (.ofEntries [.remark (command.firstParameter?.getD "")])
  | .replay => .error (command.fault .repeatOfRepeat)
  | .defaultDelay => command.defaultDelayPlan
  | .randomDelay => command.randomDelayPlan
  | .log => command.logPlan
  | .validate => command.validatePlan
  | .branch => command.branchPlan
  | .otherwise =>
      .ok (.ofEntries
        [.remark "ELSE: Alternative execution path (placeholder)"])
  | .endBranch => .ok (.ofEntries [.remark "ENDIF: End conditional block"])
  | .loop => command.loopPlan
  | .endLoop => .ok (.ofEntries [.remark "ENDWHILE: End loop block"])
  | .custom name => .ok (command.customPlan name)

/-- The steps that a repetition of a plan performs: at least an idle one. -/
def repeatedSteps
    (plan : Plan KeyName) :
    List (Step KeyName) :=
  if plan.steps.isEmpty then
    [.plain .idle]
  else
    plan.steps

/--
The plan of a repetition: a loop over the steps of the command before it.  The
repeated command changes nothing a second time.
-/
def replayPlan
    (pause : Text.Milliseconds)
    (previous? : Option Command)
    (command : Command) :
    Except EncodeFault (Plan KeyName) := do
  let value ← command.required "count"
  match Text.integer? (Text.trim value) with
  | none =>
      .error (command.fault (.invalidCount value))
  | some count =>
      if count < 1 then
        .error (command.fault .countBelowOne)
      else
        match previous? with
        | none =>
            .error (command.fault .nothingToRepeat)
        | some previous =>
            if previous.kind = .replay then
              .error (command.fault .repeatOfRepeat)
            else do
              let repeated ← previous.directPlan pause
              pure
                { entries :=
                    [.remark
                        ("REPEAT: Repeating last command " ++ count.repr ++
                          " times"),
                      .loop (UInt64.ofNat count.toNat)
                        (repeatedSteps repeated)]
                  change := .nothing
                  notices := repeated.notices }

/-- The plan of a command after the given one. -/
def plan
    (pause : Text.Milliseconds)
    (previous? : Option Command)
    (command : Command) :
    Except EncodeFault (Plan KeyName) :=
  if command.kind = .replay then
    command.replayPlan pause previous?
  else
    command.directPlan pause

/-- The symbol that a device has for a key of this command. -/
def symbolFor
    (command : Command)
    (device : Device) :
    KeyName → Except EncodeFault String
  | .known key =>
      match device.vocabulary.symbol? (.key key) with
      | some symbol =>
          .ok symbol
      | none =>
          .error (command.fault (.unsupportedKey (.key key) device.id))
  | .spelled token =>
      .ok (device.family.spell token)

/--
The command whose steps are performed: a repetition performs those of the
command before it.
-/
def performed
    (previous? : Option Command)
    (command : Command) :
    Command :=
  if command.kind = .replay then
    previous?.getD command
  else
    command

/--
The plan of a command with the symbols of a device.  A key without a symbol is a
fault of the command whose steps are performed.
-/
def planFor
    (device : Device)
    (pause : Text.Milliseconds)
    (previous? : Option Command)
    (command : Command) :
    Except EncodeFault (Plan String) := do
  let named ← command.plan pause previous?
  named.resolve ((command.performed previous?).symbolFor device)

end Keystroke.Command
