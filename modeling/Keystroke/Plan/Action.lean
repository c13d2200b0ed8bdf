import Keystroke.Log
import Keystroke.Text.Seconds

namespace Keystroke

/-!
# What a command does

A plan says what a command does on the keyboard, before any language is chosen
for it.  It is a list of entries: steps to perform, remarks that every program
shows, asides that only a verbose program shows, and a loop over steps.  The
type of keys is a parameter, because a plan is first made with the names of keys
and then given the symbols of a device.
-/

/-- The elementary actions of a generated program. -/
inductive Action
    (KeyType : Type) where
  | wait (duration : Text.Milliseconds)
  | waitBetween (least most : Text.Milliseconds)
  | typeText (text : String)
  | press (key : KeyType)
  | release (key : KeyType)
  | print (text : String)
  | recordSafeMode (enabled : Bool)
  | idle
  | branchAlways (condition : String)
  | loopOnce (condition : String)
  deriving Repr, DecidableEq

/-- An action with the note that a verbose program adds to it. -/
structure Step
    (KeyType : Type) where
  action : Action KeyType
  note? : Option String
  deriving Repr, DecidableEq

/-- One entry of a plan. -/
inductive Entry
    (KeyType : Type) where
  | remark (text : String)
  | aside (text : String)
  | perform (step : Step KeyType)
  | loop (count : UInt64) (steps : List (Step KeyType))
  deriving Repr, DecidableEq

/-- What a command changes for the commands after it. -/
inductive Change where
  | nothing
  | safeMode (enabled : Bool)
  | defaultDelay (duration : Text.Milliseconds)
  deriving Repr, DecidableEq

/-- What a command does, what it changes and what the log says about it. -/
structure Plan
    (KeyType : Type) where
  entries : List (Entry KeyType)
  change : Change
  notices : List Record
  deriving Repr, DecidableEq

variable
  {KeyType Symbol Fault : Type}

namespace Action

/-- Replace the key of an action, which may fail. -/
def resolve
    (lookup : KeyType → Except Fault Symbol) :
    Action KeyType → Except Fault (Action Symbol)
  | .wait duration => .ok (.wait duration)
  | .waitBetween least most => .ok (.waitBetween least most)
  | .typeText text => .ok (.typeText text)
  | .press key => (lookup key).map .press
  | .release key => (lookup key).map .release
  | .print text => .ok (.print text)
  | .recordSafeMode enabled => .ok (.recordSafeMode enabled)
  | .idle => .ok .idle
  | .branchAlways condition => .ok (.branchAlways condition)
  | .loopOnce condition => .ok (.loopOnce condition)

end Action

namespace Step

/-- A step without a note. -/
def plain
    (action : Action KeyType) :
    Step KeyType where
  action := action
  note? := none

/-- A step with a note. -/
def noted
    (action : Action KeyType)
    (note : String) :
    Step KeyType where
  action := action
  note? := some note

/-- Replace the key of a step, which may fail. -/
def resolve
    (lookup : KeyType → Except Fault Symbol)
    (step : Step KeyType) :
    Except Fault (Step Symbol) :=
  (step.action.resolve lookup).map fun action =>
    { action, note? := step.note? }

end Step

namespace Entry

/-- The step of an entry that is one. -/
def step? :
    Entry KeyType → Option (Step KeyType)
  | .perform step => some step
  | _ => none

/-- Replace the keys of an entry; the first that fails decides. -/
def resolve
    (lookup : KeyType → Except Fault Symbol) :
    Entry KeyType → Except Fault (Entry Symbol)
  | .remark text => .ok (.remark text)
  | .aside text => .ok (.aside text)
  | .perform step => (step.resolve lookup).map .perform
  | .loop count steps =>
      (steps.mapM (Step.resolve lookup)).map (.loop count)

end Entry

namespace Plan

/-- A plan that changes nothing and is not remarked on in the log. -/
def ofEntries
    (entries : List (Entry KeyType)) :
    Plan KeyType where
  entries := entries
  change := .nothing
  notices := []

/-- A plan of steps only. -/
def ofSteps
    (steps : List (Step KeyType)) :
    Plan KeyType :=
  ofEntries (steps.map .perform)

/-- The steps of a plan outside of loops. -/
def steps
    (plan : Plan KeyType) :
    List (Step KeyType) :=
  plan.entries.filterMap Entry.step?

/-- Replace the keys of a plan; the first that fails decides. -/
def resolve
    (lookup : KeyType → Except Fault Symbol)
    (plan : Plan KeyType) :
    Except Fault (Plan Symbol) :=
  (plan.entries.mapM (Entry.resolve lookup)).map fun entries =>
    { entries, change := plan.change, notices := plan.notices }

end Plan

end Keystroke
