import Keystroke.CommandLine.Path
import Keystroke.Failure
import Keystroke.Roster

namespace Keystroke.CommandLine

/-!
# Files and folders

A file system holds files and folders by their location, the list of names from
the root.  A path is followed segment by segment from the working folder, and
only a folder can be entered.  Writing a file first makes the folders that lead
to it; writing that fails leaves the file system as it was.
-/

/-- A list of names from the root. -/
abbrev Location :=
  List String

/-- Files and folders, and the folder that relative paths start from. -/
structure FileSystem where
  workingFolder : Location
  folders : List Location
  files : Roster (Prod.fst : Location × ByteArray → Location)

/-- What a path leads to. -/
inductive Place where
  | folder (location : Location)
  | file (location : Location) (content : ByteArray)
  | vacant (location : Location)

namespace FileSystem

/-- What is at a location whose folder exists. -/
def lookAt
    (system : FileSystem)
    (location : Location) :
    Place :=
  if location ∈ system.folders then
    .folder location
  else
    match system.files.find? location with
    | some (_, content) => .file location content
    | none => .vacant location

/-- Follow one segment of a path. -/
def follow
    (system : FileSystem) :
    Place → String → Except FileFault Place
  | .file _ _, _ =>
      .error .notFolder
  | .vacant _, _ =>
      .error .notFound
  | .folder location, segment =>
      if segment = "." then
        .ok (.folder location)
      else if segment = ".." then
        .ok (.folder location.dropLast)
      else
        .ok (system.lookAt (location ++ [segment]))

/-- Follow segments from the root or from the working folder. -/
def locate
    (system : FileSystem)
    (absolute : Bool)
    (segments : List String) :
    Except FileFault Place :=
  segments.foldlM system.follow
    (.folder (if absolute then [] else system.workingFolder))

/-- The content of the file at a path. -/
def read
    (system : FileSystem)
    (path : String) :
    Except FileFault ByteArray := do
  match ← system.locate (Path.isAbsolute path) (Path.segments path) with
  | .folder _ =>
      .error .isFolder
  | .vacant _ =>
      .error .notFound
  | .file _ content =>
      if Path.endsInSlash path then
        .error .notFolder
      else
        .ok content

/-- Make one folder where there is nothing. -/
def makeFolder
    (system : FileSystem)
    (absolute : Bool)
    (segments : List String) :
    Except FileFault FileSystem := do
  match ← system.locate absolute segments with
  | .vacant location =>
      .ok { system with folders := system.folders ++ [location] }
  | _ =>
      .error .alreadyExists

/-- Whether segments lead to a folder. -/
def isFolder
    (system : FileSystem)
    (absolute : Bool)
    (segments : List String) :
    Bool :=
  match system.locate absolute segments with
  | .ok (.folder _) => true
  | _ => false

/-- Make one folder, or keep the folder that is there. -/
def ensureFolder
    (system : FileSystem)
    (absolute : Bool)
    (segments : List String) :
    Except FileFault FileSystem :=
  match system.makeFolder absolute segments with
  | .ok made =>
      .ok made
  | .error fault =>
      if system.isFolder absolute segments then
        .ok system
      else
        .error fault

/--
Make a folder together with the folders that lead to it.  The components are
given from the last to the first.
-/
def ensureFolders
    (system : FileSystem)
    (absolute : Bool) :
    List String → Except FileFault FileSystem
  | [] =>
      .ok system
  | last :: earlier =>
      match system.ensureFolder absolute (last :: earlier).reverse with
      | .error .notFound => do
          let made ← system.ensureFolders absolute earlier
          made.ensureFolder absolute (last :: earlier).reverse
      | result =>
          result

/-- Put content into the file at a path whose folder exists. -/
def store
    (system : FileSystem)
    (path : String)
    (content : ByteArray) :
    Except FileFault FileSystem := do
  let place ← system.locate (Path.isAbsolute path) (Path.segments path)
  if Path.endsInSlash path then
    .error .isFolder
  else
    match place with
    | .folder _ =>
        .error .isFolder
    | .file location _ | .vacant location =>
        .ok { system with files := system.files.enter (location, content) }

/-- Write a file, making the folders that lead to it. -/
def write
    (system : FileSystem)
    (path : String)
    (content : ByteArray) :
    Except FileFault FileSystem := do
  let ready ← system.ensureFolders (Path.isAbsolute path)
    (Path.parent path).reverse
  ready.store path content

/-- All locations on the way to a location, from the root. -/
def ancestors
    (location : Location) :
    List Location :=
  (List.range location.length).map fun length => location.take length

/-- A working folder that holds the given files, and nothing else. -/
def ofFiles
    (workingFolder : Location)
    (files : List (String × ByteArray)) :
    FileSystem :=
  let placed := files.map fun (path, content) =>
    (workingFolder ++ Path.components path, content)
  { workingFolder
    folders :=
      ancestors workingFolder ++ [workingFolder] ++
        placed.flatMap fun (location, _) => ancestors location
    files := Roster.ofList placed }

/-- The files below the working folder, by their paths relative to it. -/
def relativeFiles
    (system : FileSystem) :
    List (String × ByteArray) :=
  system.files.items.filterMap fun (location, content) =>
    if system.workingFolder.isPrefixOf location then
      some
        ("/".intercalate (location.drop system.workingFolder.length), content)
    else
      none

end FileSystem

end Keystroke.CommandLine
