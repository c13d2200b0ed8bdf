import Keystroke.Context
import Keystroke.Proofs.Planned
import Keystroke.Proofs.Resolving

namespace Keystroke

/-!
# What commands set for the commands after them

A command may switch safe mode or set the default delay.  Which of the two it
does, and to what value, is read off the command alone.  What holds after some
commands is what the latest of them has set, and the context of a run always
holds just that: a step from one context to the next keeps it so.
-/

namespace Command

/--
The safe mode that a command switches to.  A safe mode command always switches;
an attack mode does so only if its parameter is `ON` or `OFF` in any case.
-/
def switch?
    (command : Command) :
    Option Bool :=
  let word? := command.firstParameter?.map Text.upper
  match command.kind with
  | .safeMode =>
      some (word? = some "ON")
  | .attackMode =>
      if word? = some "ON" then
        some true
      else if word? = some "OFF" then
        some false
      else
        none
  | _ =>
      none

/-- The default delay that a command sets. -/
def defaultDelay?
    (command : Command) :
    Option Text.Milliseconds :=
  match command.kind with
  | .defaultDelay =>
      (command.firstParameter?.bind fun value =>
        Text.integer? (Text.trim value)).map fun number =>
          UInt64.ofNat number.toNat
  | _ =>
      none

/-- What a command sets, as a change of the context. -/
def setting
    (command : Command) :
    Change :=
  match command.switch?, command.defaultDelay? with
  | some enabled, _ => .safeMode enabled
  | none, some delay => .defaultDelay delay
  | none, none => .nothing

/-- A repetition sets nothing. -/
theorem setting_replay
    {command : Command}
    (kind : command.kind = .replay) :
    command.switch? = none ∧ command.defaultDelay? = none := by
  simp [switch?, defaultDelay?, kind]

/-- A text with a pattern in it is not a word without the pattern. -/
private theorem ne_of_contains
    {text pattern : String}
    (found : Text.contains text pattern)
    (word : String)
    (absent : Text.contains word pattern = false) :
    text ≠ word := by
  intro same
  rw [same, absent] at found
  cases found

/-- A plan of the list changes what its command sets. -/
theorem Planned.change_eq
    {pause : Text.Milliseconds}
    {command : Command}
    {plan : Plan KeyName}
    (planned : Planned pause command plan) :
    plan.change = command.setting := by
  cases planned with
  | key kind =>
      simp [setting, switch?, defaultDelay?, kind, keyPlan, Plan.ofSteps,
        Plan.ofEntries]
  | delay kind | text kind | combination kind =>
      simp [setting, switch?, defaultDelay?, kind, Plan.ofSteps,
        Plan.ofEntries]
  | pause kind =>
      simp [setting, switch?, defaultDelay?, kind, pausePlan, Plan.ofEntries]
  | safeModeOn kind parameter isOn | attackModeOn kind parameter isOn =>
      simp [setting, switch?, kind, parameter, isOn, switchPlan]
  | safeModeOff kind parameter isOff | attackModeOff kind parameter isOff =>
      simp [setting, switch?, kind, parameter, isOff, switchPlan]
  | attackModeKeyboard kind parameter keyboard =>
      simp [setting, switch?, defaultDelay?, kind, parameter, Plan.ofEntries,
        ne_of_contains keyboard "ON" rfl,
        ne_of_contains keyboard "OFF" rfl]
  | attackModeStorage kind parameter notKeyboard storage =>
      simp [setting, switch?, defaultDelay?, kind, parameter, Plan.ofEntries,
        ne_of_contains storage "ON" rfl,
        ne_of_contains storage "OFF" rfl]
  | attackModeOther kind parameter notKeyboard notStorage notOn notOff =>
      simp [setting, switch?, defaultDelay?, kind, parameter, notOn, notOff,
        Plan.ofEntries]
  | comment kind =>
      rcases kind with kind | kind <;>
        simp [setting, switch?, defaultDelay?, kind, Plan.ofEntries]
  | defaultDelay kind parameter reads timeShape =>
      simp [setting, switch?, defaultDelay?, kind, parameter, reads.reads,
        timeShape]
  | randomDelay kind | log kind | validate kind | branch kind | otherwise kind
  | endBranch kind | loop kind | endLoop kind =>
      simp [setting, switch?, defaultDelay?, kind, Plan.ofEntries]
  | custom kind =>
      simp [setting, switch?, defaultDelay?, kind, customPlan]

/-- A plan for a device changes what its command sets. -/
theorem planFor_change
    {device : Device}
    {pause : Text.Milliseconds}
    {previous? : Option Command}
    {command : Command}
    {plan : Plan String}
    (planned : command.planFor device pause previous? = .ok plan) :
    plan.change = command.setting := by
  obtain ⟨named, namedPlan, resolved⟩ := planFor_eq_ok.mp planned
  obtain ⟨_, sameChange, _⟩ := Plan.resolve_eq_ok.mp resolved
  rw [sameChange]
  rcases plan_eq_ok.mp namedPlan with direct | replayed
  · exact direct.change_eq
  · cases replayed with
    | replay kind =>
        obtain ⟨noSwitch, noDelay⟩ := setting_replay kind
        simp [setting, noSwitch, noDelay]

/-- What the latest of some commands has set, or else an initial value. -/
def latest
    {Value : Type}
    (set? : Command → Option Value)
    (initial : Value)
    (commands : List Command) :
    Value :=
  (commands.reverse.findSome? set?).getD initial

/-- One more command sets the value, or leaves it as it was. -/
theorem latest_append_singleton
    {Value : Type}
    (set? : Command → Option Value)
    (initial : Value)
    (commands : List Command)
    (command : Command) :
    latest set? initial (commands ++ [command]) =
      (set? command).getD (latest set? initial commands) := by
  cases sets : set? command with
  | none =>
      simp [latest, sets]
  | some value =>
      simp [latest, sets]

/-- A command that sets a value hides the initial one. -/
theorem latest_of_mem
    {Value : Type}
    {set? : Command → Option Value}
    {commands : List Command}
    {command : Command}
    (member : command ∈ commands)
    (sets : set? command ≠ none)
    (initial other : Value) :
    latest set? initial commands = latest set? other commands := by
  have found : commands.reverse.findSome? set? ≠ none := by
    intro none
    rw [List.findSome?_eq_none_iff] at none
    exact sets (none command (List.mem_reverse.mpr member))
  obtain ⟨value, isValue⟩ := Option.ne_none_iff_exists'.mp found
  simp [latest, isValue]

end Command

namespace Context

/-- What earlier commands have set, read off these commands. -/
def after
    (safeMode : Bool)
    (earlier : List Command) :
    Context where
  safeMode := Command.latest Command.switch? safeMode earlier
  defaultDelay := Command.latest Command.defaultDelay? 0 earlier
  previous? := earlier.getLast?

/-- Before any command nothing is set. -/
theorem after_nil
    (safeMode : Bool) :
    after safeMode [] = initial safeMode := by
  rfl

/-- The context after one more command is the context changed by it. -/
theorem after_append_singleton
    (safeMode : Bool)
    (earlier : List Command)
    (command : Command) :
    after safeMode (earlier ++ [command]) =
      ((after safeMode earlier).apply command.setting).withPrevious
        command := by
  cases switches : command.switch? with
  | none =>
      cases delays : command.defaultDelay? with
      | none =>
          simp [after, Command.latest_append_singleton, switches, delays,
            Command.setting, apply, withPrevious]
      | some delay =>
          simp [after, Command.latest_append_singleton, switches, delays,
            Command.setting, apply, withDefaultDelay, withPrevious]
  | some enabled =>
      have noDelay : command.defaultDelay? = none := by
        cases kind : command.kind <;>
          simp_all [Command.switch?, Command.defaultDelay?]
      simp [after, Command.latest_append_singleton, switches, noDelay,
        Command.setting, apply, withSafeMode, withPrevious]

end Context

end Keystroke
