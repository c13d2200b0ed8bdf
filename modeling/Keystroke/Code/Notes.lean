import Keystroke.Script.Basic

namespace Keystroke.CodeNotes

/-!
# Notes around a program

A verbose program tells what it is for, where it comes from and how it should
be used.  The notes are the same in every family, except for the library they
name and the way comments are written.
-/

/-- What the program is and which library it uses. -/
def opening
    (deviceName : String)
    (library : String) :
    List String :=
  ["Target: " ++ deviceName,
    "",
    "This code was automatically generated from a keystroke script.",
    "It uses the " ++ library ++ " library to act as a USB keyboard.",
    "",
    "IMPORTANT: Use only for educational purposes and authorized testing!"]

/-- Where the program comes from, as comments. -/
def information
    (comment : String → String)
    (summary : Script.Summary) :
    List String :=
  [comment "Script Information:",
    comment ("Source: " ++ summary.source),
    comment ("Total Commands: " ++ summary.totalCommands.repr),
    comment ("Total Lines: " ++ summary.totalLines.repr)]

/-- How the program should be used. -/
def closing :
    List String :=
  ["",
    "Notes:",
    "- Always test in controlled environments",
    "- Use responsibly and ethically",
    "- Consider the security implications of automated input"]

end Keystroke.CodeNotes
