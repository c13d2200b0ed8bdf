namespace Keystroke

/-!
# Lines of code

A line of a program's body knows how deep it is nested and whether it is only a
comment.  Indentation is added when the line is written.
-/

/-- What a line is for. -/
inductive LineRole where
  | comment
  | statement
  deriving Repr, DecidableEq

/-- A line of a program's body. -/
structure CodeLine where
  depth : Nat
  role : LineRole
  text : String
  deriving Repr, DecidableEq

namespace CodeLine

/-- A comment at the outermost level. -/
def comment
    (text : String) :
    CodeLine where
  depth := 0
  role := .comment
  text := text

/-- A statement at the outermost level. -/
def statement
    (text : String) :
    CodeLine where
  depth := 0
  role := .statement
  text := text

/-- The line one level deeper. -/
def nested
    (line : CodeLine) :
    CodeLine :=
  { line with depth := line.depth + 1 }

/-- Whether the line is more than a comment. -/
def isStatement
    (line : CodeLine) :
    Bool :=
  line.role = .statement

/-- The line with its indentation, given that of one level. -/
def render
    (indentation : String)
    (line : CodeLine) :
    String :=
  String.join (List.replicate line.depth indentation) ++ line.text

end CodeLine

end Keystroke
