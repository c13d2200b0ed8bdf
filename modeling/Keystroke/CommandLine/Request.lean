namespace Keystroke.CommandLine

/-!
# What the command line is asked for

Arguments make a request, or they end the run before anything is done.  How
arguments are written is no concern of what is done for a request, so whatever
reads them is a parameter of a run.
-/

/-- A request with everything it needs. -/
inductive Request where
  | parse (file : String)
  | encode
      (file : String)
      (output? : Option String)
      (deviceId : String)
      (production : Bool)
  | validate (file : String) (deviceId : String)
  | devices
  deriving Repr, DecidableEq

/-- A request, and whether to say more about it. -/
structure Invocation where
  verbose : Bool
  request : Request
  deriving Repr, DecidableEq

/--
How arguments end a run.  They are rejected, or they ask about the program
itself and are answered with a text.
-/
inductive Dismissal where
  | rejected
  | answered (text : String)
  deriving Repr, DecidableEq

/-- A way to read arguments. -/
abbrev ArgumentReader :=
  List String → Except Dismissal Invocation

end Keystroke.CommandLine
