import Keystroke.Proofs.ProgramLines

namespace Keystroke

/-!
# No line of a sketch is joined to the next

A sketch joins a line to the next one if the last visible character of the line
is a backslash.  Comments are written so that they never end in one, statements
end in a semicolon or a brace, and the lines around them are fixed.  The only
other lines show the condition of a branch or a loop, and no line of a text is
read as one of these.  So in a program for a script that was read no line is
joined to the next.
-/

namespace Text

/-- The last character of a text that is not blank. -/
def lastVisible?
    (text : String) :
    Option Char :=
  text.toList.reverse.find? fun character => !isSpace character

/-- The last visible character is the last one after trimming. -/
theorem getLast?_trimEnd
    (text : String) :
    (trimEnd text).toList.getLast? = lastVisible? text := by
  rw [trimEnd, String.toList_ofList, List.getLast?_reverse, lastVisible?,
    List.find?_eq_head?_dropWhile_not]
  simp

/-- The last visible character is in the second text if that has one. -/
theorem lastVisible?_append
    (first second : String) :
    lastVisible? (first ++ second) =
      (lastVisible? second).or (lastVisible? first) := by
  simp only [lastVisible?, String.toList_append, List.reverse_append,
    List.find?_append]

end Text

namespace Arduino

/-- The line does not end in a backslash, so the next is not joined to it. -/
def StandsAlone
    (line : String) :
    Prop :=
  (Text.trimEnd line).toList.getLast? ≠ some '\\'

/-- A line stands alone if its last visible character is no backslash. -/
theorem standsAlone_iff
    {line : String} :
    StandsAlone line ↔ Text.lastVisible? line ≠ some '\\' := by
  rw [StandsAlone, Text.getLast?_trimEnd]

/-- A fixed line stands alone if it does not end in a backslash. -/
theorem standsAlone_ofList
    {characters : List Char}
    (visible :
      characters.reverse.find? (fun character => !Text.isSpace character) ≠
        some '\\') :
    StandsAlone (String.ofList characters) := by
  rw [standsAlone_iff, Text.lastVisible?, String.toList_ofList]
  exact visible

/-- Parts that stand alone stand alone together. -/
theorem StandsAlone.append
    {first second : String}
    (firstStands : StandsAlone first)
    (secondStands : StandsAlone second) :
    StandsAlone (first ++ second) := by
  rw [standsAlone_iff] at firstStands secondStands ⊢
  rw [Text.lastVisible?_append]
  cases found : Text.lastVisible? second with
  | none =>
      exact firstStands
  | some last =>
      rw [found] at secondStands
      exact secondStands

/-- A line with a visible end stands alone if the end is no backslash. -/
theorem standsAlone_of_end
    (front : String)
    {ending : List Char}
    {last : Char}
    (isLast :
      ending.reverse.find? (fun character => !Text.isSpace character) =
        some last)
    (noBackslash : last ≠ '\\') :
    StandsAlone (front ++ String.ofList ending) := by
  have endsThere : Text.lastVisible? (String.ofList ending) = some last := by
    rw [Text.lastVisible?, String.toList_ofList]
    exact isLast
  rw [standsAlone_iff, Text.lastVisible?_append, endsThere]
  simpa using noBackslash

/-- No comment ends in a backslash, whatever its text is. -/
theorem standsAlone_comment
    (text : String) :
    StandsAlone (comment text) := by
  unfold comment
  split
  · exact standsAlone_of_end _ rfl (by decide)
  · rename_i noBackslash
    refine StandsAlone.append (standsAlone_ofList (by decide)) ?_
    simpa [StandsAlone, endsInBackslash] using noBackslash

/-- A wait ends in a semicolon. -/
theorem standsAlone_wait
    (duration : Text.Milliseconds) :
    StandsAlone (wait duration) :=
  standsAlone_of_end _ rfl (by decide)

/-- A line stands alone at every depth. -/
theorem StandsAlone.indented
    {text : String}
    (stands : StandsAlone text) :
    StandsAlone (indentation ++ text) :=
  StandsAlone.append (standsAlone_ofList (by decide)) stands

end Arduino

/-- Whether an action shows a condition that is not evaluated. -/
def Action.showsCondition
    {KeyType : Type} :
    Action KeyType → Bool
  | .branchAlways _ | .loopOnce _ => true
  | _ => false

namespace Arduino

/-- The lines of an action that shows no condition stand alone. -/
theorem standsAlone_actionLines
    {action : Action String}
    (shown : action.showsCondition = false) :
    ∀ line ∈ actionLines action, StandsAlone line.text := by
  cases action with
  | branchAlways condition | loopOnce condition =>
      cases shown
  | idle =>
      exact List.forall_mem_singleton.mpr (standsAlone_ofList (by decide))
  | wait duration =>
      exact List.forall_mem_singleton.mpr (standsAlone_wait duration)
  | _ =>
      exact List.forall_mem_singleton.mpr
        (standsAlone_of_end _ rfl (by decide))

/-- The lines of a step that shows no condition stand alone. -/
theorem standsAlone_stepLines
    {step : Step String}
    (shown : step.action.showsCondition = false)
    (verbose : Bool) :
    ∀ line ∈ step.lines .arduino verbose, StandsAlone line.text := by
  have bare := standsAlone_actionLines shown
  intro line member
  unfold Step.lines at member
  split at member
  · rename_i note _
    obtain ⟨plain, isPlain, rfl⟩ := List.mem_map.mp member
    exact ((bare plain isPlain).append
      (standsAlone_ofList (by decide))).append (standsAlone_comment note)
  · exact bare line member

/-- The lines of an entry whose steps show no condition stand alone. -/
theorem standsAlone_entryLines
    {entry : Entry String}
    (shown : ∀ step ∈ entry.allSteps, step.action.showsCondition = false)
    (verbose : Bool) :
    ∀ line ∈ entry.lines .arduino verbose, StandsAlone line.text := by
  refine Entry.forall_lines ?_ ?_ ?_ fun _ stands => stands
  · intro text _
    rw [Family.text_commentLine]
    exact standsAlone_comment text
  · intro step isStep
    exact standsAlone_stepLines (shown step isStep) verbose
  · intro count
    refine List.forall_mem_cons.mpr
      ⟨standsAlone_of_end _ rfl (by decide), ?_⟩
    exact List.forall_mem_singleton.mpr (standsAlone_ofList (by decide))

/-- The lines before the first command stand alone if the name does. -/
theorem standsAlone_header
    (verbose : Bool)
    {name : String}
    (nameStands : StandsAlone name)
    (summary : Script.Summary)
    (startupDelay : Text.Milliseconds) :
    ∀ line ∈ header verbose name summary startupDelay, StandsAlone line := by
  have target : StandsAlone ("Target: " ++ name) :=
    StandsAlone.append (standsAlone_ofList (by decide)) nameStands
  have opening :
      ∀ line ∈ CodeNotes.opening name "Arduino Keyboard",
        StandsAlone line := by
    simp (disch := decide) [CodeNotes.opening, @standsAlone_ofList _, target]
  have information :
      ∀ line ∈ CodeNotes.information comment summary ++ [""],
        StandsAlone line := by
    simp (disch := decide) [CodeNotes.information, standsAlone_comment,
      @standsAlone_ofList _]
  have declared :
      StandsAlone ("bool safeMode = " ++ truth verbose ++ ";") :=
    standsAlone_of_end _ rfl (by decide)
  simp only [header, List.forall_mem_append]
  refine ⟨⟨⟨⟨⟨⟨⟨⟨?_, forall_mem_of_verbose opening verbose⟩, ?_⟩,
    forall_mem_of_verbose information verbose⟩, ?_⟩,
    forall_mem_of_verbose ?_ verbose⟩, ?_⟩,
    forall_mem_of_verbose ?_ verbose⟩,
    List.forall_mem_cons.mpr ⟨(standsAlone_wait startupDelay).indented, ?_⟩⟩
    <;> simp (disch := decide) [@standsAlone_ofList _, declared]

/-- The lines after the last command stand alone. -/
theorem standsAlone_footer
    (verbose : Bool) :
    ∀ line ∈ footer verbose, StandsAlone line := by
  cases verbose <;>
    simp (disch := decide) [footer, CodeNotes.closing, @standsAlone_ofList _]

end Arduino

/-! ## Scripts that were read -/

namespace Command

/-- Only a branch or a loop shows a condition in its plan. -/
theorem Planned.shows_no_condition
    {pause : Text.Milliseconds}
    {command : Command}
    {plan : Plan KeyName}
    (planned : Planned pause command plan)
    (notBranch : command.kind ≠ .branch)
    (notLoop : command.kind ≠ .loop) :
    ∀ step ∈ plan.allSteps, step.action.showsCondition = false := by
  have chordShows
      (keys : List (KeyName × String)) :
      ∀ step ∈ (Plan.ofSteps (chord keys)).allSteps,
        step.action.showsCondition = false := by
    rw [Plan.allSteps_ofSteps]
    intro step member
    rcases List.mem_append.mp member with isPress | isRelease
    · obtain ⟨_, _, rfl⟩ := List.mem_map.mp isPress
      rfl
    · obtain ⟨_, _, rfl⟩ := List.mem_map.mp isRelease
      rfl
  cases planned with
  | key | combination =>
      exact chordShows _
  | branch kind =>
      exact absurd kind notBranch
  | loop kind =>
      exact absurd kind notLoop
  | _ =>
      simp [Plan.allSteps, Entry.allSteps, Plan.ofEntries, Plan.ofSteps,
        pausePlan, switchPlan, customPlan, Step.plain, Step.noted,
        Action.showsCondition]

/-- A command of a readable kind shows none in its plan for a device. -/
theorem shows_no_condition_of_planFor
    {device : Device}
    {pause : Text.Milliseconds}
    {previous? : Option Command}
    {command : Command}
    {plan : Plan String}
    (planned : command.planFor device pause previous? = .ok plan)
    (readable : command.kind.isReadable) :
    ∀ step ∈ plan.allSteps, step.action.showsCondition = false := by
  obtain ⟨named, namedPlan, rfl⟩ := exists_plan_of_planFor planned
  have direct : Planned pause command named := by
    rcases plan_eq_ok.mp namedPlan with direct | replayed
    · exact direct
    · cases replayed with
      | replay kind =>
          rw [kind] at readable
          cases readable
  intro step member
  rw [Plan.allSteps_mapKey] at member
  obtain ⟨keyStep, isKeyStep, rfl⟩ := List.mem_map.mp member
  have shown :=
    direct.shows_no_condition (Kind.ne_of_isReadable readable rfl)
      (Kind.ne_of_isReadable readable rfl) keyStep isKeyStep
  rcases keyStep with ⟨action, note?⟩
  cases action <;> exact shown

end Command

namespace Stateless

/-- The lines of a block for a command of a readable kind stand alone. -/
theorem standsAlone_of_block
    {config : EncoderConfig}
    {device : Device}
    (isArduino : device.family = .arduino)
    {commands : List Command}
    {index : Nat}
    {command : Command}
    (readable : command.kind.isReadable)
    {lines : List String}
    (written : block config device commands index command = .ok lines) :
    ∀ line ∈ lines, Arduino.StandsAlone line := by
  obtain ⟨plan, planned, rfl⟩ := block_eq_ok.mp written
  have shown := Command.shows_no_condition_of_planFor planned readable
  rw [isArduino]
  simp only [List.forall_mem_append]
  refine ⟨⟨⟨?_, ?_⟩, ?_⟩, ?_⟩
  · unfold echoLines
    exact forall_mem_of_verbose (List.forall_mem_singleton.mpr
      (Arduino.standsAlone_comment _).indented) _
  · intro line member
    obtain ⟨bare, isBare, rfl⟩ := List.mem_map.mp member
    obtain ⟨entry, isEntry, inEntry⟩ := List.mem_flatMap.mp isBare
    refine Family.bodyLine_induction _ (fun _ stands => stands.indented) ?_
    exact Arduino.standsAlone_entryLines
      (fun step isStep =>
        shown step (List.mem_flatMap.mpr ⟨entry, isEntry, isStep⟩))
      _ bare inEntry
  · intro line member
    unfold delayLines at member
    split at member
    · rw [List.mem_singleton.mp member]
      exact (Arduino.standsAlone_wait _).indented
    · cases member
  · exact List.forall_mem_singleton.mpr
      (Arduino.standsAlone_ofList (by decide))

end Stateless

namespace Script

/--
No line is joined to the next.  In a program that is generated from a text for
an Arduino that is always known, no line ends in a backslash once the blank
characters at its end are left out.
-/
theorem no_line_is_spliced
    {text source : String}
    {script : Script}
    (accepted : (read text source).outcome = .ok script)
    {device : Device}
    (isBuiltin : device ∈ Registry.builtin.items)
    (isArduino : device.family = .arduino)
    (sourceUnbroken : Text.Lacks '\n' source)
    {config : EncoderConfig}
    {code : String}
    (encoded : (Encoder.encode config script device).outcome = .ok code) :
    ∀ line ∈ Text.lines code, Arduino.StandsAlone line := by
  obtain ⟨written, made, cut⟩ :=
    exists_blocks_lines_of_read accepted isBuiltin sourceUnbroken encoded
  have nameStands : Arduino.StandsAlone device.name := by
    have listed := Roster.mem_of_mem_ofList isBuiltin
    simp only [List.mem_cons, List.not_mem_nil, or_false] at listed
    rcases listed with rfl | rfl | rfl | rfl | rfl <;>
      exact Arduino.standsAlone_ofList (by decide)
  have body : ∀ line ∈ written.flatten, Arduino.StandsAlone line := by
    intro line member
    obtain ⟨lines, isBlock, inBlock⟩ := List.mem_flatten.mp member
    obtain ⟨index, command, isCommand, blockMade⟩ :=
      Stateless.exists_command_of_mem_blocks made isBlock
    exact Stateless.standsAlone_of_block isArduino
      (isReadable_of_read accepted isCommand) blockMade line inBlock
  rw [cut, isArduino]
  simp only [List.forall_mem_append]
  exact ⟨⟨⟨Arduino.standsAlone_header _ nameStands _ _, body⟩,
      Arduino.standsAlone_footer _⟩,
    List.forall_mem_singleton.mpr (Arduino.standsAlone_ofList (by decide))⟩

/-- A remark and a text that both end in a backslash. -/
def backslashes :
    Script where
  commands :=
    [⟨.remark, 1, "REM C:\\", ["C:\\"]⟩,
      ⟨.text, 2, "STRING a\\", ["a\\"]⟩]
  source := "C:\\"
  totalLines := 2

/-- No line is joined to the next, though all texts end in a backslash. -/
theorem no_line_is_spliced_backslashes :
    (read "REM C:\\\nSTRING a\\" "C:\\").outcome = .ok backslashes ∧
      Device.standard "teensy_4" "Teensy 4.0" .arduino ∈
        Registry.builtin.items ∧
      ∃ code,
        (Encoder.encode {} backslashes
            (.standard "teensy_4" "Teensy 4.0" .arduino)).outcome =
          .ok code ∧
          ∀ line ∈ Text.lines code, Arduino.StandsAlone line := by
  have accepted :
      (read "REM C:\\\nSTRING a\\" "C:\\").outcome = .ok backslashes :=
    rfl
  have isBuiltin :
      Device.standard "teensy_4" "Teensy 4.0" .arduino ∈
        Registry.builtin.items :=
    List.mem_of_getElem? (i := 3) rfl
  have sourceUnbroken : Text.Lacks '\n' "C:\\" :=
    Text.lacks_ofList (by decide) rfl
  have succeeds :
      Outcome.Succeeds
        (Encoder.encode {} backslashes
          (.standard "teensy_4" "Teensy 4.0" .arduino)).outcome :=
    ⟨_, rfl⟩
  obtain ⟨code, encoded⟩ := succeeds
  exact ⟨accepted, isBuiltin, code, encoded,
    no_line_is_spliced accepted isBuiltin rfl sourceUnbroken encoded⟩

end Script

end Keystroke
