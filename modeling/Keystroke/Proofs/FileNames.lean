import Mathlib.Data.List.DropRight
import Keystroke.CommandLine.Performing
import Keystroke.Proofs.FileChanges
import Keystroke.Proofs.Lines

namespace Keystroke

/-!
# Names of files

The name at the end of a path is what follows its last slash, and its stem is
what it has before its last dot, unless that dot comes first.  Components of a
path are found in another way, from its start, and they leave out a dot and an
empty name at its end.  But no file is read at such a path, so a program is
named after the stem of the file that its script was read from.
-/

/-! ## Cutting at the end -/

/-- What is left from the end up to a failing test ends in what failed it. -/
theorem rdropWhile_cases
    {Item : Type}
    (test : Item → Bool)
    (items : List Item) :
    items.rdropWhile test = [] ∨
      ∃ before last,
        items.rdropWhile test = before ++ [last] ∧ test last = false := by
  rcases List.eq_nil_or_concat (items.rdropWhile test) with
    none | ⟨before, last, shape⟩
  · exact .inl none
  · right
    have notEmpty : items.rdropWhile test ≠ [] := by
      simp [shape]
    have fails := List.rdropWhile_last_not test items notEmpty
    refine ⟨before, last, by simpa using shape, ?_⟩
    simpa [shape] using fails

/-- Dropping as much as passes a test drops what passes it. -/
theorem drop_length_takeWhile
    {Item : Type}
    (test : Item → Bool)
    (items : List Item) :
    items.drop (items.takeWhile test).length = items.dropWhile test := by
  have left :
      (items.takeWhile test ++ items.dropWhile test).drop
          (items.takeWhile test).length =
        items.dropWhile test :=
    List.drop_left
  rwa [List.takeWhile_append_dropWhile] at left

/-- The last piece of a text is what follows its last separator. -/
theorem Text.getLast?_pieces
    (isSeparator : Char → Bool)
    (characters : List Char) :
    (pieces isSeparator characters).getLast? =
      some (characters.rtakeWhile fun character =>
        !isSeparator character) := by
  have noSeparator :
      ∀ character ∈ characters.rtakeWhile fun character =>
          !isSeparator character,
        isSeparator character = false := by
    intro character member
    simpa using List.mem_rtakeWhile_imp member
  have whole :
      pieces isSeparator
          ((characters.rtakeWhile fun character =>
              !isSeparator character) ++ []) =
        [(characters.rtakeWhile fun character =>
            !isSeparator character) ++ []] :=
    pieces_append noSeparator rfl
  rw [List.append_nil] at whole
  have shape :=
    List.rdropWhile_append_rtakeWhile
      (p := fun character => !isSeparator character) (l := characters)
  rcases rdropWhile_cases (fun character => !isSeparator character)
      characters with
    none | ⟨before, separator, front, isOne⟩
  · rw [none, List.nil_append] at shape
    rw [shape] at whole ⊢
    simp [whole]
  · rw [front, List.append_assoc, List.singleton_append] at shape
    rw [← shape, pieces_append_separator (by simpa using isOne), shape, whole]
    simp

namespace CommandLine

namespace Path

/-- The name at the end of a path. -/
def lastName
    (path : String) :
    String :=
  String.ofList (path.toList.rtakeWhile (· != '/'))

/-- A name up to its last dot, or all of it if no dot follows its start. -/
def nameStem
    (name : String) :
    String :=
  if '.' ∈ name.toList.tail then
    String.ofList (name.toList.rdropWhile (· != '.')).dropLast
  else
    name

/-- The extension that is left out starts at the last dot. -/
theorem withoutExtension_eq
    (name : String) :
    withoutExtension name = nameStem name := by
  have shape :=
    List.rdropWhile_append_rtakeWhile
      (p := (· != '.')) (l := name.toList)
  have noDot : '.' ∉ name.toList.rtakeWhile (· != '.') := by
    intro member
    simpa using List.mem_rtakeWhile_imp member
  have reversed :
      name.toList.reverse.drop
          (name.toList.reverse.takeWhile (· != '.')).length =
        (name.toList.rdropWhile (· != '.')).reverse := by
    rw [List.rdropWhile, List.reverse_reverse]
    exact drop_length_takeWhile _ _
  simp only [withoutExtension, nameStem, reversed]
  rcases rdropWhile_cases (· != '.') name.toList with
    none | ⟨before, dot, front, isDot⟩
  · rw [none, List.nil_append] at shape
    rw [shape] at noDot
    have noLaterDot : '.' ∉ name.toList.tail := by
      intro member
      exact noDot (List.mem_of_mem_tail member)
    simp [none, noLaterDot]
  · have isDot : dot = '.' := by
      simpa using isDot
    subst isDot
    rw [front] at shape ⊢
    cases before with
    | nil =>
        have noLaterDot : '.' ∉ name.toList.tail := by
          rw [← shape]
          simpa using noDot
        simp [noLaterDot]
    | cons first between =>
        have laterDot : '.' ∈ name.toList.tail := by
          rw [← shape]
          simp
        obtain ⟨last, earlier, backward⟩ :=
          List.exists_cons_of_ne_nil
            (l := (first :: between).reverse) (by simp)
        have stem :
            String.ofList (last :: earlier).reverse =
              String.ofList (first :: between) := by
          rw [← backward, List.reverse_reverse]
        rw [if_pos laterDot, List.reverse_append, backward,
          List.dropLast_concat]
        exact stem

/-- The last segment is the name at the end, unless there is a slash. -/
theorem exists_segments
    {path : String}
    (notEmpty : path.toList ≠ [])
    (noSlash : endsInSlash path = false) :
    ∃ earlier, segments path = earlier ++ [lastName path] := by
  have hasName : path.toList.rtakeWhile (· != '/') ≠ [] := by
    intro none
    rw [List.rtakeWhile_eq_nil_iff] at none
    have noSlashLast : path.toList.getLast notEmpty ≠ '/' := by
      simpa [endsInSlash, List.getLast?_eq_some_getLast notEmpty] using
        noSlash
    exact none notEmpty (by simpa using noSlashLast)
  have last := Text.getLast?_pieces (· == '/') path.toList
  obtain ⟨earlier, cut⟩ := List.getLast?_eq_some_iff.mp last
  refine ⟨(earlier.filter fun piece => !piece.isEmpty).map String.ofList, ?_⟩
  have kept :
      [path.toList.rtakeWhile (· != '/')].filter
          (fun piece => !piece.isEmpty) =
        [path.toList.rtakeWhile (· != '/')] :=
    List.filter_eq_self.mpr (by simpa using hasName)
  rw [segments, cut, List.filter_append, List.map_append]
  exact congrArg (fun last => _ ++ last.map String.ofList) kept

end Path

/--
Where a program goes: to a path that is asked for, or else to a file named after
the file of its script.
-/
def destination
    (output? : Option String)
    (file : String)
    (device : Device) :
    String :=
  output?.getD
    ("compiled/" ++ Path.nameStem (Path.lastName file) ++ "." ++
      device.extension)

/-- The path of a file that is read ends in the name of the file. -/
theorem stem?_of_read
    {system : FileSystem}
    {path : String}
    {content : ByteArray}
    (found : system.read path = .ok content) :
    Path.stem? path = some (Path.nameStem (Path.lastName path)) := by
  rw [FileSystem.read, Outcome.bind_eq_ok] at found
  obtain ⟨place, located, found⟩ := found
  cases place with
  | folder location | vacant location =>
      cases found
  | file location old =>
      have notFolder : ¬ (Place.file location old).IsFolder := by
        intro isFolder
        cases isFolder
      obtain ⟨earlier, name, shape, notHere, notAbove⟩ :=
        FileSystem.exists_name_of_foldlM (Place.isFolder_folder _) located
          notFolder
      have noSlash : Path.endsInSlash path = false := by
        cases slash : Path.endsInSlash path with
        | false => rfl
        | true => simp [slash] at found
      have notEmpty : path.toList ≠ [] := by
        intro empty
        simp [Path.segments, empty, Text.pieces] at shape
      obtain ⟨others, sameShape⟩ := Path.exists_segments notEmpty noSlash
      rw [sameShape] at shape
      have isName : Path.lastName path = name := by
        simpa using List.append_inj_right' shape rfl
      have last : (Path.components path).getLast? = some name := by
        simp [Path.components, sameShape, isName, notHere]
      simp [Path.stem?, last, notAbove, isName, Path.withoutExtension_eq]

/-- A program goes where it should once its script was read. -/
theorem getD_defaultOutput
    {system : FileSystem}
    {file : String}
    {content : ByteArray}
    (found : system.read file = .ok content)
    (output? : Option String)
    (device : Device) :
    output?.getD (defaultOutput file device) =
      destination output? file device := by
  rw [defaultOutput, stem?_of_read found, Option.getD_some, Device.fileName,
    destination]
  simp only [String.append_assoc]

end CommandLine

end Keystroke
