import Keystroke.CommandLine.FileAccess
import Keystroke.Proofs.Outcome
import Keystroke.Proofs.Rosters

namespace Keystroke

/-!
# What writing a file changes

A path is followed from folder to folder, and only its last segment can lead to
a file.  Making folders puts them where there is nothing, so no file is hidden
by them.  Storing a file changes what is at one location, and that is where its
path leads.  So a file that was written reads as what was written, and all other
files are as they were.
-/

namespace CommandLine

/-- The location of a place. -/
def Place.location :
    Place → Location
  | .folder location => location
  | .file location _ => location
  | .vacant location => location

/-- A place that segments of a path can be followed from. -/
def Place.IsFolder
    (place : Place) :
    Prop :=
  place = .folder place.location

/-- A folder is a folder. -/
theorem Place.isFolder_folder
    (location : Location) :
    (Place.folder location).IsFolder :=
  rfl

namespace FileSystem

/-- The content of the file at a location, if there is a file. -/
def fileAt?
    (system : FileSystem)
    (location : Location) :
    Option ByteArray :=
  match system.lookAt location with
  | .file _ content => some content
  | _ => none

/-- Two file systems in which every file is in the same place and the same. -/
def SameFiles
    (first second : FileSystem) :
    Prop :=
  ∀ location, first.fileAt? location = second.fileAt? location

/--
How a successful write of a file changes a file system.  The path leads to a
file with the content, and no other file is made, changed or lost.
-/
structure Written
    (before after : FileSystem)
    (path : String)
    (content : ByteArray) :
    Prop where
  readsBack : after.read path = .ok content
  elsewhere :
    ∃ location,
      after.locate (Path.isAbsolute path) (Path.segments path) =
          .ok (.file location content) ∧
        ∀ other, other ≠ location →
          after.fileAt? other = before.fileAt? other

namespace SameFiles

/-- Nothing has changed if nothing was done. -/
theorem refl
    (system : FileSystem) :
    SameFiles system system :=
  fun _ => rfl

/-- Files that are kept twice are kept. -/
theorem trans
    {first second third : FileSystem}
    (kept : SameFiles first second)
    (keptAgain : SameFiles second third) :
    SameFiles first third :=
  fun location => (kept location).trans (keptAgain location)

end SameFiles

/-- A write changes the same file if all files were as before. -/
theorem Written.of_sameFiles
    {before between after : FileSystem}
    {path : String}
    {content : ByteArray}
    (written : Written between after path content)
    (kept : SameFiles between before) :
    Written before after path content := by
  obtain ⟨readsBack, location, located, elsewhere⟩ := written
  refine ⟨readsBack, location, located, ?_⟩
  intro other different
  exact (elsewhere other different).trans (kept other)

/-! ## Following a path -/

/-- What is at a location has this location. -/
@[simp] theorem location_lookAt
    (system : FileSystem)
    (location : Location) :
    (system.lookAt location).location = location := by
  unfold lookAt
  split
  · rfl
  · split <;> rfl

/-- There is a folder at the locations of folders. -/
theorem isFolder_lookAt
    {system : FileSystem}
    {location : Location} :
    (system.lookAt location).IsFolder ↔ location ∈ system.folders := by
  rw [Place.IsFolder, location_lookAt, lookAt]
  split
  · rename_i isFolder
    simp [isFolder]
  · rename_i notFolder
    split <;> simp [notFolder]

/-- A segment can be followed from a folder only. -/
theorem isFolder_of_follow
    {system : FileSystem}
    {place next : Place}
    {segment : String}
    (followed : system.follow place segment = .ok next) :
    place.IsFolder := by
  cases place with
  | folder location =>
      rfl
  | file location content =>
      cases followed
  | vacant location =>
      cases followed

/-- A segment leads to a folder, or it is the name of what is at a location. -/
theorem isFolder_or_name_of_follow
    {system : FileSystem}
    {place next : Place}
    {segment : String}
    (followed : system.follow place segment = .ok next) :
    next.IsFolder ∨
      (segment ≠ "." ∧ segment ≠ ".." ∧
        next = system.lookAt (place.location ++ [segment])) := by
  rw [isFolder_of_follow followed, follow] at followed
  split at followed
  · cases followed
    exact .inl rfl
  · rename_i notHere
    split at followed
    · cases followed
      exact .inl rfl
    · rename_i notAbove
      cases followed
      exact .inr ⟨notHere, notAbove, rfl⟩

/-- A name leads from a folder to what is at the location of that name. -/
theorem follow_name
    (system : FileSystem)
    {place : Place}
    (isFolder : place.IsFolder)
    {segment : String}
    (notHere : segment ≠ ".")
    (notAbove : segment ≠ "..") :
    system.follow place segment =
      .ok (system.lookAt (place.location ++ [segment])) := by
  rw [isFolder, follow, if_neg notHere, if_neg notAbove]
  rfl

/--
What a path leads to is a folder or is at its location.  This holds of what a
single segment leads to, and so of the last one.
-/
theorem isFolder_or_lookAt_of_foldlM
    {system : FileSystem}
    {segments : List String}
    {start place : Place}
    (seen : start.IsFolder ∨ system.lookAt start.location = start)
    (followed : segments.foldlM system.follow start = .ok place) :
    place.IsFolder ∨ system.lookAt place.location = place := by
  induction segments generalizing start with
  | nil =>
      cases followed
      exact seen
  | cons segment rest inductionHypothesis =>
      rw [List.foldlM_cons, Outcome.bind_eq_ok] at followed
      obtain ⟨next, first, others⟩ := followed
      refine inductionHypothesis ?_ others
      rcases isFolder_or_name_of_follow first with
        isFolder | ⟨_, _, isNext⟩
      · exact .inl isFolder
      · right
        rw [isNext, location_lookAt]

/-- Only a path that ends in a name leads to something else than a folder. -/
theorem exists_name_of_foldlM
    {system : FileSystem}
    {segments : List String}
    {start place : Place}
    (isFolder : start.IsFolder)
    (followed : segments.foldlM system.follow start = .ok place)
    (notFolder : ¬ place.IsFolder) :
    ∃ earlier name,
      segments = earlier ++ [name] ∧ name ≠ "." ∧ name ≠ ".." := by
  rcases List.eq_nil_or_concat segments with none | ⟨earlier, name, shape⟩
  · rw [none] at followed
    cases followed
    exact absurd isFolder notFolder
  · rw [shape, List.concat_eq_append, List.foldlM_append,
      Outcome.bind_eq_ok] at followed
    obtain ⟨last, _, lastFollowed⟩ := followed
    simp only [List.foldlM_cons, List.foldlM_nil, bind_pure] at lastFollowed
    rcases isFolder_or_name_of_follow lastFollowed with
      placeFolder | ⟨notHere, notAbove, _⟩
    · exact absurd placeFolder notFolder
    · rw [List.concat_eq_append] at shape
      exact ⟨earlier, name, shape, notHere, notAbove⟩

/-! ## Making folders -/

/-- A folder where there is nothing hides no file. -/
theorem sameFiles_of_vacant
    {system : FileSystem}
    {location : Location}
    (vacant : system.lookAt location = .vacant location) :
    SameFiles { system with folders := system.folders ++ [location] }
      system := by
  intro other
  by_cases same : other = location
  · rw [same, fileAt?, fileAt?, vacant, lookAt]
    simp
  · simp [fileAt?, lookAt, same]

/-- Making one folder keeps all files. -/
theorem sameFiles_of_makeFolder
    {system next : FileSystem}
    {absolute : Bool}
    {segments : List String}
    (made : system.makeFolder absolute segments = .ok next) :
    SameFiles next system := by
  rw [makeFolder, Outcome.bind_eq_ok] at made
  obtain ⟨place, located, made⟩ := made
  cases place with
  | vacant location =>
      cases made
      have seen :=
        isFolder_or_lookAt_of_foldlM (.inl (Place.isFolder_folder _)) located
      exact sameFiles_of_vacant (seen.resolve_left nofun)
  | folder location =>
      cases made
  | file location content =>
      cases made

/-- Making sure of one folder keeps all files. -/
theorem sameFiles_of_ensureFolder
    {system next : FileSystem}
    {absolute : Bool}
    {segments : List String}
    (ensured : system.ensureFolder absolute segments = .ok next) :
    SameFiles next system := by
  unfold ensureFolder at ensured
  split at ensured
  · rename_i made
    cases ensured
    exact sameFiles_of_makeFolder made
  · split at ensured
    · cases ensured
      exact SameFiles.refl system
    · cases ensured

/-- Making sure of the folders on the way to a file keeps all files. -/
theorem sameFiles_of_ensureFolders
    {system next : FileSystem}
    {absolute : Bool}
    {components : List String}
    (ensured : system.ensureFolders absolute components = .ok next) :
    SameFiles next system := by
  induction components generalizing next with
  | nil =>
      cases ensured
      exact SameFiles.refl system
  | cons last earlier inductionHypothesis =>
      unfold ensureFolders at ensured
      split at ensured
      · obtain ⟨made, madeEarlier, madeLast⟩ :=
          Outcome.bind_eq_ok.mp ensured
        exact (sameFiles_of_ensureFolder madeLast).trans
          (inductionHypothesis madeEarlier)
      · exact sameFiles_of_ensureFolder ensured

/-! ## Storing a file -/

/-- The file system with a file at a location, in the place of another one. -/
def storing
    (system : FileSystem)
    (location : Location)
    (content : ByteArray) :
    FileSystem :=
  { system with files := system.files.enter (location, content) }

section Storing

variable
  (system : FileSystem)
  {location : Location}
  (content : ByteArray)

/-- What is at a location after a file was stored. -/
theorem lookAt_storing
    (other : Location) :
    (system.storing location content).lookAt other =
      if other = location ∧ other ∉ system.folders then
        .file location content
      else
        system.lookAt other := by
  by_cases inFolders : other ∈ system.folders
  · simp [lookAt, storing, inFolders]
  · by_cases same : other = location
    · subst same
      simp [lookAt, storing, Roster.find?_enter, inFolders]
    · simp [lookAt, storing, Roster.find?_enter, same, Ne.symm same]

/-- Storing a file changes no file at another location. -/
theorem fileAt?_storing_of_ne
    {other : Location}
    (different : other ≠ location) :
    (system.storing location content).fileAt? other =
      system.fileAt? other := by
  rw [fileAt?, lookAt_storing, if_neg fun same => different same.1, fileAt?]

/-- A segment leads to the same folder after a file was stored. -/
theorem follow_storing_of_isFolder
    {place next : Place}
    {segment : String}
    (followed : system.follow place segment = .ok next)
    (isFolder : next.IsFolder) :
    (system.storing location content).follow place segment = .ok next := by
  have fromFolder := isFolder_of_follow followed
  rw [fromFolder] at followed ⊢
  simp only [follow] at followed ⊢
  split
  · rename_i isHere
    simpa [isHere] using followed
  · rename_i notHere
    rw [if_neg notHere] at followed
    split
    · rename_i isAbove
      simpa [isAbove] using followed
    · rename_i notAbove
      rw [if_neg notAbove] at followed
      cases followed
      have unchanged := isFolder_lookAt.mp isFolder
      rw [lookAt_storing, if_neg fun stored => stored.2 unchanged]

/--
A path that leads to no folder leads to the file that was stored there.  On the
way there are folders only, and storing a file changes no folder.
-/
theorem foldlM_storing
    {segments : List String}
    {start place : Place}
    (followed : segments.foldlM system.follow start = .ok place)
    (isFolder : start.IsFolder)
    (notFolder : ¬ place.IsFolder) :
    segments.foldlM (system.storing place.location content).follow start =
      .ok (.file place.location content) := by
  induction segments generalizing start with
  | nil =>
      cases followed
      exact absurd isFolder notFolder
  | cons segment rest inductionHypothesis =>
      rw [List.foldlM_cons, Outcome.bind_eq_ok] at followed
      obtain ⟨next, first, others⟩ := followed
      rw [List.foldlM_cons]
      -- Only the last segment can lead to the file that was stored.
      cases rest with
      | nil =>
          cases others
          rcases isFolder_or_name_of_follow first with
            placeFolder | ⟨notHere, notAbove, isPlace⟩
          · exact absurd placeFolder notFolder
          rw [isPlace, isFolder_lookAt] at notFolder
          rw [follow_name _ isFolder notHere notAbove, isPlace,
            location_lookAt, lookAt_storing, if_pos ⟨rfl, notFolder⟩]
          rfl
      | cons second later =>
          have nextFolder : next.IsFolder := by
            rw [List.foldlM_cons, Outcome.bind_eq_ok] at others
            obtain ⟨_, secondFollowed, _⟩ := others
            exact isFolder_of_follow secondFollowed
          rw [follow_storing_of_isFolder system content first nextFolder]
          exact inductionHypothesis others nextFolder

end Storing

/-- Storing a file that succeeds puts it where its path leads. -/
theorem written_of_store
    {system next : FileSystem}
    {path : String}
    {content : ByteArray}
    (stored : system.store path content = .ok next) :
    Written system next path content := by
  rw [store, Outcome.bind_eq_ok] at stored
  obtain ⟨place, located, stored⟩ := stored
  by_cases slash : Path.endsInSlash path
  · simp [slash] at stored
  rw [if_neg slash] at stored
  have placed :
      ¬ place.IsFolder ∧ next = system.storing place.location content := by
    cases place with
    | folder location =>
        cases stored
    | file location old | vacant location =>
        cases stored
        exact ⟨nofun, rfl⟩
  obtain ⟨notFolder, rfl⟩ := placed
  have isFile :
      (system.storing place.location content).locate
          (Path.isAbsolute path) (Path.segments path) =
        .ok (.file place.location content) :=
    foldlM_storing system content located (Place.isFolder_folder _) notFolder
  refine ⟨?_, place.location, isFile, ?_⟩
  · rw [read, isFile]
    simp [bind, Except.bind, slash]
  · intro other different
    exact fileAt?_storing_of_ne system content different

/-- A write that succeeds changes one file, to what was written. -/
theorem written_of_write
    {system next : FileSystem}
    {path : String}
    {content : ByteArray}
    (wrote : system.write path content = .ok next) :
    Written system next path content := by
  rw [write, Outcome.bind_eq_ok] at wrote
  obtain ⟨ready, ensured, stored⟩ := wrote
  exact (written_of_store stored).of_sameFiles
    (sameFiles_of_ensureFolders ensured)

end FileSystem

end CommandLine

end Keystroke
