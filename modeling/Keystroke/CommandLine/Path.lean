import Keystroke.Text.Space

namespace Keystroke.CommandLine.Path

/-!
# Paths

A path is a text cut into segments at slashes.  Empty segments do not count,
and a segment of one dot stays where it is.
-/

/-- The segments of a path that are not empty. -/
def segments
    (path : String) :
    List String :=
  ((Text.pieces (· == '/') path.toList).filter
    fun piece => !piece.isEmpty).map String.ofList

/-- Whether a path starts at the root. -/
def isAbsolute
    (path : String) :
    Bool :=
  path.toList.head? == some '/'

/-- Whether a path can only mean a folder. -/
def endsInSlash
    (path : String) :
    Bool :=
  path.toList.getLast? == some '/'

/-- The segments that lead somewhere. -/
def components
    (path : String) :
    List String :=
  (segments path).filter (· != ".")

/-- The components of the folder that a path lies in. -/
def parent
    (path : String) :
    List String :=
  (components path).dropLast

/--
A file's name without its extension.  The extension starts at the last dot,
unless that dot is the first character.
-/
def withoutExtension
    (name : String) :
    String :=
  let reversed := name.toList.reverse
  let ending := reversed.takeWhile (· != '.')
  match reversed.drop ending.length with
  | [] => name
  | [_] => name
  | _ :: stem => String.ofList stem.reverse

/-- The name of a path's file without its extension. -/
def stem?
    (path : String) :
    Option String :=
  match (components path).getLast? with
  | none =>
      none
  | some name =>
      if name = ".." then none else some (withoutExtension name)

end Keystroke.CommandLine.Path
