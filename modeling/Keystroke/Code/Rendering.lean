import Keystroke.Code.Arduino
import Keystroke.Code.CircuitPython
import Keystroke.Device.Family

namespace Keystroke

/-!
# Writing plans as code

A family writes every action in its own words.  A verbose program shows the
asides of a plan and adds the notes to its steps; whether a program is verbose
never changes which statements are written.
-/

namespace Family

/-- The indentation of one level. -/
def indentation :
    Family → String
  | .circuitPython => CircuitPython.indentation
  | .arduino => Arduino.indentation

/-- A comment up to the end of the line. -/
def comment :
    Family → String → String
  | .circuitPython => CircuitPython.comment
  | .arduino => Arduino.comment

/-- The lines of an action. -/
def actionLines :
    Family → Action String → List CodeLine
  | .circuitPython => CircuitPython.actionLines
  | .arduino => Arduino.actionLines

/-- The first line of a loop. -/
def loopStart :
    Family → UInt64 → String
  | .circuitPython => CircuitPython.loopStart
  | .arduino => Arduino.loopStart

/-- The last line of a loop, in the families that have one. -/
def loopEnd? :
    Family → Option String
  | .circuitPython => none
  | .arduino => some Arduino.loopEnd

/-- The lines before the first command. -/
def header :
    Family →
      Bool → String → Script.Summary → Text.Milliseconds → List String
  | .circuitPython => CircuitPython.header
  | .arduino => Arduino.header

/-- The lines after the last command. -/
def footer :
    Family → Bool → List String
  | .circuitPython => CircuitPython.footer
  | .arduino => Arduino.footer

/-- A statement followed by a comment on the same line. -/
def annotate
    (family : Family)
    (statement : String)
    (note : String) :
    String :=
  statement ++ "  " ++ family.comment note

/-- The comment as a line of the body. -/
def commentLine
    (family : Family)
    (text : String) :
    CodeLine :=
  .comment (family.comment text)

end Family

namespace Step

/-- The lines of a step, with its note if the program is verbose. -/
def lines
    (family : Family)
    (verbose : Bool)
    (step : Step String) :
    List CodeLine :=
  match verbose, step.note? with
  | true, some note =>
      (family.actionLines step.action).map fun line =>
        { line with text := family.annotate line.text note }
  | _, _ =>
      family.actionLines step.action

end Step

namespace Entry

/--
The lines of an entry.  The body of a loop holds only statements, one level
deeper than the loop.
-/
def lines
    (family : Family)
    (verbose : Bool) :
    Entry String → List CodeLine
  | .remark text =>
      [family.commentLine text]
  | .aside text =>
      if verbose then [family.commentLine text] else []
  | .perform step =>
      step.lines family verbose
  | .loop count steps =>
      [.statement (family.loopStart count)] ++
        ((steps.flatMap (Step.lines family verbose)).filter
          CodeLine.isStatement).map CodeLine.nested ++
        family.loopEnd?.toList.map CodeLine.statement

end Entry

namespace Plan

/-- The lines of a plan. -/
def lines
    (family : Family)
    (verbose : Bool)
    (plan : Plan String) :
    List CodeLine :=
  plan.entries.flatMap (Entry.lines family verbose)

end Plan

end Keystroke
