namespace Keystroke

/-!
# Log records and runs that keep them

A run is a computation that may fail and that writes log records on its way.
The records written before a failure are kept, so that the log shows how far a
failing run came.
-/

/-- How important a record is. -/
inductive Level where
  | trace
  | debug
  | info
  | warn
  deriving Repr, DecidableEq

/-- One message of the log. -/
structure Record where
  level : Level
  message : String
  deriving Repr, DecidableEq

/-- The records of a computation and what came of it. -/
structure Run
    (Fault : Type)
    (Value : Type) where
  records : List Record
  outcome : Except Fault Value

namespace Run

variable
  {Fault Value Result : Type}

/-- Continue with the value of a run; a failed run does not continue. -/
def andThen
    (run : Run Fault Value)
    (next : Value → Run Fault Result) :
    Run Fault Result :=
  match run.outcome with
  | .error fault =>
      { records := run.records, outcome := .error fault }
  | .ok value =>
      let following := next value
      { records := run.records ++ following.records
        outcome := following.outcome }

/-- Change the value of a run and nothing else. -/
def mapValue
    (change : Value → Result)
    (run : Run Fault Value) :
    Run Fault Result where
  records := run.records
  outcome := run.outcome.map change

instance :
    Monad (Run Fault) where
  pure value := { records := [], outcome := .ok value }
  bind := andThen
  map := mapValue

/-- Runs compose: a run of nothing changes nothing, and grouping is free. -/
instance :
    LawfulMonad (Run Fault) :=
  LawfulMonad.mk' (Run Fault)
    (by
      intro Value run
      rcases run with ⟨records, outcome⟩
      cases outcome <;> rfl)
    (by
      intro Value Result value next
      rfl)
    (by
      intro Value Middle Result run first second
      rcases run with ⟨records, outcome⟩
      cases outcome with
      | error fault =>
          rfl
      | ok value =>
          simp only [Bind.bind, andThen]
          cases (first value).outcome with
          | error fault =>
              rfl
          | ok middle =>
              simp [List.append_assoc])
    (by
      intro Value Result value run
      rfl)
    (by
      intro Value Result run other
      rfl)
    (by
      intro Value Result run other
      rfl)
    (by
      intro Value Result change run
      rcases run with ⟨records, outcome⟩
      cases outcome with
      | error fault =>
          rfl
      | ok value =>
          simp [Functor.map, mapValue, Bind.bind, andThen, Pure.pure,
            Except.map])

/-- Fail without a record. -/
def fail
    (fault : Fault) :
    Run Fault Value where
  records := []
  outcome := .error fault

/-- Take over a result that wrote no records. -/
def ofExcept
    (outcome : Except Fault Value) :
    Run Fault Value where
  records := []
  outcome := outcome

/-- Write records. -/
def write
    (records : List Record) :
    Run Fault Unit where
  records := records
  outcome := .ok ()

/-- Write one record. -/
def log
    (level : Level)
    (message : String) :
    Run Fault Unit :=
  write [{ level, message }]

/-- State the failure of a run in other words. -/
def mapFault
    {OtherFault : Type}
    (change : Fault → OtherFault)
    (run : Run Fault Value) :
    Run OtherFault Value where
  records := run.records
  outcome := run.outcome.mapError change

end Run

end Keystroke
