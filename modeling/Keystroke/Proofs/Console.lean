import Keystroke.CommandLine.Performing
import Keystroke.Proofs.Outcome

namespace Keystroke.CommandLine

/-!
# What is printed

An action on a console starts with what has been printed before it, and it ends
with a result, with what has been printed then and in some state of the files.
Actions one after another are run one after another, and a failing one ends the
run.  Reading a script and writing a program print nothing.  A report prints one
text, whatever was printed before it, and it neither fails nor touches a file.
-/

/-! ## Running actions -/

section Actions

variable
  {State Value Result : Type}

/-- Run an action when something has been printed and in a state. -/
def Console.runFrom
    (action : Console (StateM State) Value)
    (printed : String)
    (state : State) :
    (Except Failure Value × String) × State :=
  (action.run.run printed).run state

open Console

variable
  {first : Console (StateM State) Value}
  {printed between : String}
  {state after : State}

/-- An action goes on with what its first part leaves. -/
theorem runFrom_bind_of_ok
    {value : Value}
    (done : runFrom first printed state = ((.ok value, between), after))
    (next : Value → Console (StateM State) Result) :
    runFrom (first >>= next) printed state =
      runFrom (next value) between after := by
  simp only [runFrom] at done ⊢
  rw [ExceptT.run_bind, StateT.run_bind, StateT.run_bind, done]
  rfl

/-- An action fails with its first part. -/
theorem runFrom_bind_of_error
    {failure : Failure}
    (failed :
      runFrom first printed state = ((.error failure, between), after))
    (next : Value → Console (StateM State) Result) :
    runFrom (first >>= next) printed state =
      ((.error failure, between), after) := by
  simp only [runFrom] at failed ⊢
  rw [ExceptT.run_bind, StateT.run_bind, StateT.run_bind, failed]
  rfl

/-- An action on files prints nothing. -/
theorem runFrom_liftM
    {action : StateM State Value}
    {value : Value}
    (done : action.run state = (value, after))
    (printed : String) :
    runFrom (liftM action : Console (StateM State) Value) printed state =
      ((.ok value, printed), after) := by
  have lifted :
      runFrom (liftM action : Console (StateM State) Value) printed state =
        ((.ok (action.run state).1, printed), (action.run state).2) :=
    rfl
  rw [lifted, done]

/-- Taking over a result prints nothing. -/
theorem runFrom_takeOver
    {result known : Except Failure Value}
    (isKnown : result = known)
    (printed : String)
    (state : State) :
    runFrom (takeOver result) printed state = ((known, printed), state) := by
  rw [isKnown]
  rfl

end Actions

/-! ## Printing texts -/

/-- Lines of a text, each closed by a line feed. -/
def closedLines
    (lines : List String) :
    String :=
  String.join (lines.map fun line => line ++ "\n")

/-- Warnings as they are listed for a user; no warnings are not listed. -/
def listing
    (warnings : List String) :
    String :=
  if warnings = [] then
    ""
  else
    "\nWarnings:\n" ++
      String.join (warnings.map fun warning => "   " ++ warning ++ "\n")

/-- What is printed once a program was written. -/
def encodedText
    (file deviceName output : String)
    (commands lines : Nat)
    (warnings : List String) :
    String :=
  closedLines
      ["Successfully encoded '" ++ file ++ "' for " ++ deviceName ++ " to '" ++
          output ++ "'",
        "   Input Commands: " ++ commands.repr,
        "   Output Lines: " ++ lines.repr] ++
    listing warnings

/--
What is printed of a script that was examined.  The advice is counted in its two
parts and listed in one.
-/
def validatedText
    (file : String)
    (commands : Nat)
    (scriptWarnings deviceWarnings : List String) :
    String :=
  closedLines
      ["Successfully validated '" ++ file ++ "'",
        "   Total Commands: " ++ commands.repr,
        "   Parser Warnings: " ++ scriptWarnings.length.repr,
        "   Device Warnings: " ++ deviceWarnings.length.repr] ++
    (if scriptWarnings ++ deviceWarnings = [] then
      "\nNo warnings found\n"
    else
      listing (scriptWarnings ++ deviceWarnings))

section Printing

variable
  (State : Type)

/-- An action that prints a text and does nothing else. -/
def Prints
    (action : Console (StateM State) Unit)
    (text : String) :
    Prop :=
  ∀ printed state,
    action.runFrom printed state = ((.ok (), printed ++ text), state)

variable
  {State}
  {first second : Console (StateM State) Unit}
  {text more : String}

/-- Printing nothing is doing nothing. -/
theorem prints_nothing :
    Prints State (pure ()) "" := by
  intro printed state
  rw [String.append_empty]
  rfl

/-- A line is printed with a line feed. -/
theorem prints_line
    (line : String) :
    Prints State (printLine line) (line ++ "\n") := by
  intro printed state
  rw [← String.append_assoc]
  rfl

/-- What is printed first stands before what is printed then. -/
theorem Prints.andThen
    (printsFirst : Prints State first text)
    (printsSecond : Prints State second more) :
    Prints State (first >>= fun _ => second) (text ++ more) := by
  intro printed state
  rw [runFrom_bind_of_ok (printsFirst printed state), printsSecond,
    String.append_assoc]

/-- Lines are printed one after another. -/
theorem prints_lines
    (lines : List String) :
    Prints State (printLines lines) (closedLines lines) := by
  induction lines with
  | nil =>
      exact prints_nothing
  | cons line rest inductionHypothesis =>
      rw [closedLines, List.map_cons, String.join_cons]
      exact (prints_line line).andThen inductionHypothesis

/-- Warnings are printed as they are listed. -/
theorem prints_warnings
    (warnings : List String) :
    Prints State (printWarnings warnings) (listing warnings) := by
  unfold printWarnings listing
  cases warnings with
  | nil =>
      exact prints_nothing
  | cons warning others =>
      have items :
          Prints State (printLines ((warning :: others).map item))
            (closedLines ((warning :: others).map item)) :=
        prints_lines _
      rw [closedLines, List.map_map] at items
      exact (prints_line "\nWarnings:").andThen items

end Printing

/-! ## The parts of a request -/

/-- Bytes are read as a text if they are the encoding of the text. -/
theorem fromUTF8?_eq_some
    {content : ByteArray}
    {text : String} :
    String.fromUTF8? content = some text ↔ content = text.toUTF8 := by
  unfold String.fromUTF8?
  constructor
  · intro decoded
    split at decoded
    · cases decoded
      rfl
    · cases decoded
  · rintro rfl
    exact dif_pos text.isValidUTF8

section Parts

variable
  {State : Type}
  {access : FileAccess (StateM State)}
  {state ready final : State}
  {file printed between : String}

/-- The script is read from the text that the file holds. -/
theorem runFrom_readScript_of_text
    {text : String}
    (done : (access.read file).run state = (.ok text.toUTF8, ready))
    (printed : String) :
    (readScript access file).runFrom printed state =
      (((Script.read text file).outcome, printed), ready) := by
  have isText : String.fromUTF8? text.toUTF8 = some text :=
    fromUTF8?_eq_some.mpr rfl
  rw [readScript, runFrom_bind_of_ok (runFrom_liftM done printed)]
  simp only [isText]
  rfl

/--
Reading a script reads its file once and prints nothing.  The file cannot be
read, or does not hold a text, or the script is read from the text.
-/
theorem runFrom_readScript_cases
    {result : Except Failure Script}
    (done :
      (readScript access file).runFrom printed state =
        ((result, between), ready)) :
    between = printed ∧
      ((∃ fault,
        (access.read file).run state = (.error fault, ready) ∧
          result = .error (.read file fault)) ∨
        (∃ content,
          (access.read file).run state = (.ok content, ready) ∧
            String.fromUTF8? content = none ∧
            result = .error (.read file .notText)) ∨
        ∃ text,
          (access.read file).run state = (.ok text.toUTF8, ready) ∧
            result = (Script.read text file).outcome) := by
  cases found : (access.read file).run state with
  | mk content after =>
      cases content with
      | error fault =>
          rw [readScript, runFrom_bind_of_ok (runFrom_liftM found printed)]
            at done
          cases done
          exact ⟨rfl, .inl ⟨fault, rfl, rfl⟩⟩
      | ok content =>
          cases decoded : String.fromUTF8? content with
          | none =>
              rw [readScript,
                runFrom_bind_of_ok (runFrom_liftM found printed)] at done
              simp only [decoded] at done
              cases done
              exact ⟨rfl, .inr (.inl ⟨content, rfl, decoded, rfl⟩)⟩
          | some text =>
              rw [fromUTF8?_eq_some] at decoded
              subst decoded
              rw [runFrom_readScript_of_text found printed] at done
              cases done
              exact ⟨rfl, .inr (.inr ⟨text, rfl, rfl⟩)⟩

/-- A script that is read comes from the text that the file holds. -/
theorem exists_text_of_runFrom_readScript
    {script : Script}
    (found :
      (readScript access file).runFrom printed state =
        ((.ok script, between), ready)) :
    ∃ text,
      (access.read file).run state = (.ok text.toUTF8, ready) ∧
        (Script.read text file).outcome = .ok script := by
  obtain ⟨_, ⟨_, _, impossible⟩ | ⟨_, _, _, impossible⟩ |
    ⟨text, read, isScript⟩⟩ := runFrom_readScript_cases found
  · cases impossible
  · cases impossible
  · exact ⟨text, read, isScript.symm⟩

/-- Writing a program fails or succeeds with the write, and prints nothing. -/
theorem runFrom_writeProgram
    {output code : String}
    {result : Except FileFault Unit}
    (done : (access.write output code).run ready = (result, final))
    (printed : String) :
    (writeProgram access output code).runFrom printed ready =
      ((result.mapError (.write output), printed), final) := by
  rw [writeProgram, runFrom_bind_of_ok (runFrom_liftM done printed)]
  cases result <;> rfl

section Unread

variable
  {failure : Failure}
  (unread :
    (readScript access file).runFrom printed state =
      ((.error failure, between), ready))
  {deviceId : String}
  {device : Device}
  (known : Registry.builtin.resolve deviceId = .ok device)

include unread known

/-- A script that cannot be read is not examined. -/
theorem runFrom_performValidate_of_unread
    {verbose : Bool} :
    (performValidate access verbose file deviceId).runFrom printed state =
      ((.error failure, between), ready) := by
  rw [performValidate,
    runFrom_bind_of_ok (runFrom_takeOver known printed state),
    runFrom_bind_of_error unread]

/-- A script that cannot be read is not encoded. -/
theorem runFrom_performEncode_of_unread
    {output? : Option String}
    {production : Bool} :
    (performEncode access file output? deviceId production).runFrom printed
        state =
      ((.error failure, between), ready) := by
  rw [performEncode,
    runFrom_bind_of_ok (runFrom_takeOver known printed state),
    runFrom_bind_of_error unread]

end Unread

section Reports

variable
  {script : Script}
  (found :
    (readScript access file).runFrom printed state =
      ((.ok script, between), ready))

include found

/-- A script that was read is told about. -/
theorem runFrom_performParse
    (verbose : Bool) :
    (performParse access verbose file).runFrom printed state =
      ((.ok (),
          between ++
            (closedLines (parseReport file script) ++
              ((if verbose then
                  "\nCommands:\n" ++ closedLines (commandLines script)
                else
                  "") ++
                listing script.advice))),
        ready) := by
  rw [performParse, runFrom_bind_of_ok found]
  refine (prints_lines _).andThen ?_ between ready
  cases verbose with
  | false =>
      simp only [Bool.false_eq_true, ↓reduceIte, String.empty_append]
      exact prints_warnings _
  | true =>
      simp only [↓reduceIte, String.append_assoc]
      exact (prints_line "\nCommands:").andThen
        ((prints_lines _).andThen (prints_warnings _))

/-- A script that was read is examined for the device. -/
theorem runFrom_performValidate
    {deviceId : String}
    {device : Device}
    (known : Registry.builtin.resolve deviceId = .ok device)
    (verbose : Bool) :
    (performValidate access verbose file deviceId).runFrom printed state =
      ((.ok (),
          between ++
            (validatedText file script.totalCommands script.advice
                (device.advice script) ++
              if verbose then
                "\nCommand Summary:\n" ++ closedLines (summaryLines script)
              else
                "")),
        ready) := by
  have summary :
      Prints State
        (if verbose then do
          printLine "\nCommand Summary:"
          printLines (summaryLines script)
        else
          pure ())
        (if verbose then
          "\nCommand Summary:\n" ++ closedLines (summaryLines script)
        else
          "") := by
    cases verbose with
    | false =>
        exact prints_nothing
    | true =>
        exact (prints_line "\nCommand Summary:").andThen (prints_lines _)
  rw [performValidate,
    runFrom_bind_of_ok (runFrom_takeOver known printed state),
    runFrom_bind_of_ok found, validatedText, String.append_assoc]
  refine (prints_lines _).andThen ?_ between ready
  simp only [List.isEmpty_iff]
  split
  · exact (prints_line "\nNo warnings found").andThen summary
  · exact (prints_warnings _).andThen summary

section Encoding

variable
  {deviceId : String}
  {device : Device}
  (known : Registry.builtin.resolve deviceId = .ok device)
  {output? : Option String}
  {production : Bool}

include known

/-- A script that was read and cannot be encoded is told nothing about. -/
theorem runFrom_performEncode_of_error
    {failure : Failure}
    (failed :
      (Encoder.encode (.withSafeMode {} !production) script
          device).outcome =
        .error failure) :
    (performEncode access file output? deviceId production).runFrom printed
        state =
      ((.error failure, between), ready) := by
  rw [performEncode,
    runFrom_bind_of_ok (runFrom_takeOver known printed state),
    runFrom_bind_of_ok found,
    runFrom_bind_of_error (runFrom_takeOver failed between ready)]

variable
  {code : String}
  (encoded :
    (Encoder.encode (.withSafeMode {} !production) script
        device).outcome =
      .ok code)

include encoded

/-- A program that cannot be written is told nothing about. -/
theorem runFrom_performEncode_of_fault
    {fault : FileFault}
    (wrote :
      (access.write (output?.getD (defaultOutput file device)) code).run
          ready =
        (.error fault, final)) :
    (performEncode access file output? deviceId production).runFrom printed
        state =
      ((.error (.write (output?.getD (defaultOutput file device)) fault),
          between),
        final) := by
  rw [performEncode,
    runFrom_bind_of_ok (runFrom_takeOver known printed state),
    runFrom_bind_of_ok found,
    runFrom_bind_of_ok (runFrom_takeOver encoded between ready),
    runFrom_bind_of_error (runFrom_writeProgram wrote between)]

/-- A program that was written is told about. -/
theorem runFrom_performEncode
    (wrote :
      (access.write (output?.getD (defaultOutput file device)) code).run
          ready =
        (.ok (), final)) :
    (performEncode access file output? deviceId production).runFrom printed
        state =
      ((.ok (),
          between ++
            encodedText file device.name
              (output?.getD (defaultOutput file device))
              script.totalCommands (Text.lineCount code)
              (script.advice ++ device.advice script)),
        final) := by
  rw [performEncode,
    runFrom_bind_of_ok (runFrom_takeOver known printed state),
    runFrom_bind_of_ok found,
    runFrom_bind_of_ok (runFrom_takeOver encoded between ready),
    runFrom_bind_of_ok (runFrom_writeProgram wrote between)]
  exact (prints_lines _).andThen (prints_warnings _) between final

end Encoding

end Reports

end Parts

end Keystroke.CommandLine
