import Keystroke.CommandLine.Execution
import Keystroke.Proofs.Console
import Keystroke.Proofs.FileNames
import Keystroke.Proofs.Registration

namespace Keystroke.CommandLine

/-!
# Requests do all that they are asked for, or nothing

A request goes through up to five stages: the device is looked up, the file is
read, the script is read from it, the script is encoded and the program is
written.  Only the last stage changes a file, and a report is printed after it,
so a request that fails changes no file and prints nothing.  Whatever reads the
arguments, a request is all that it hands on.  Files are accessed through an
interface.  What is assumed of it is that reading gives what a file holds, that
writing is writing in a file system, and that a failing access changes no file.
-/

/-! ## What is assumed and what is shown -/

section Statement

variable
  {State : Type}

/--
An access to files that keeps its word.  The view shows the files of a state.
Reading gives what the file at a path holds, and writing that succeeds is
writing in the file system that is viewed; reading and writing that fails change
no file.
-/
structure FileAccess.Faithful
    (view : State → FileSystem)
    (access : FileAccess (StateM State)) :
    Prop where
  read_ok :
    ∀ {path state content after},
      (access.read path).run state = (.ok content, after) →
      (view state).read path = .ok content
  read_keeps :
    ∀ {path state result after},
      (access.read path).run state = (result, after) →
      (view after).SameFiles (view state)
  write_ok :
    ∀ {path text state after},
      (access.write path text).run state = (.ok (), after) →
      (view state).write path text.toUTF8 = .ok (view after)
  write_keeps :
    ∀ {path text state fault after},
      (access.write path text).run state = (.error fault, after) →
      (view after).SameFiles (view state)

/-- The fault of an outcome that has one. -/
def faultOf?
    {Fault Value : Type} :
    Except Fault Value → Option Fault
  | .error fault => some fault
  | .ok _ => none

namespace Request

/-- The identifier of the device that a request is for. -/
def deviceId? :
    Request → Option String
  | .encode _ _ deviceId _ => some deviceId
  | .validate _ deviceId => some deviceId
  | _ => none

/-- The file that a request works on. -/
def file? :
    Request → Option String
  | .parse file => some file
  | .encode file _ _ _ => some file
  | .validate file _ => some file
  | .devices => none

/-- Whether a request is for a program to be written. -/
def writes :
    Request → Bool
  | .encode _ _ _ _ => true
  | _ => false

/-- The device of a request is not known. -/
def deviceFault?
    (request : Request) :
    Option Failure :=
  request.deviceId?.bind fun deviceId =>
    faultOf? (Registry.builtin.resolve deviceId)

variable
  (access : FileAccess (StateM State))
  (state : State)

/-- The text that the file of a request holds. -/
def text?
    (request : Request) :
    Option String :=
  request.file?.bind fun file =>
    ((access.read file).run state).1.toOption.bind String.fromUTF8?

/-- The file of a request cannot be read, or does not hold a text. -/
def readFault?
    (request : Request) :
    Option Failure :=
  request.file?.bind fun file =>
    match ((access.read file).run state).1 with
    | .error fault =>
        some (.read file fault)
    | .ok content =>
        if (String.fromUTF8? content).isSome then
          none
        else
          some (.read file .notText)

/-- The text of a request's file is no script. -/
def scriptFault?
    (request : Request) :
    Option Failure := do
  let file ← request.file?
  let text ← request.text? access state
  faultOf? (Script.read text file).outcome

/-- The script of a request cannot be encoded. -/
def encodeFault?
    (request : Request) :
    Option Failure :=
  match request with
  | .encode file _ deviceId production => do
      let device ← Registry.builtin.find? deviceId
      let text ← request.text? access state
      let script ← (Script.read text file).outcome.toOption
      faultOf?
        (Encoder.encode (.withSafeMode {} !production) script device).outcome
  | _ =>
      none

/-- The program of a request cannot be written. -/
def writeFault?
    (request : Request) :
    Option Failure :=
  match request with
  | .encode file output? deviceId production => do
      let device ← Registry.builtin.find? deviceId
      let text ← request.text? access state
      let script ← (Script.read text file).outcome.toOption
      let code ← (Encoder.encode (.withSafeMode {} !production) script
        device).outcome.toOption
      let output := destination output? file device
      let ready := ((access.read file).run state).2
      (faultOf? ((access.write output code).run ready).1).map (.write output)
  | _ =>
      none

/-- The first fault of a request, in the order of the stages. -/
def firstFault?
    (request : Request) :
    Option Failure :=
  [request.deviceFault?,
    request.readFault? access state,
    request.scriptFault? access state,
    request.encodeFault? access state,
    request.writeFault? access state].findSome? id

end Request

/--
How a run of the command line ends that does all of a request, or nothing.  It
fails with the first fault of the request, if there is one, and then it prints
nothing and keeps all files.  Only a program that is asked for changes a file,
and this is the file that it goes to.
-/
structure AllOrNothing
    (view : State → FileSystem)
    (access : FileAccess (StateM State))
    (request : Request)
    (state : State)
    (outcome : Outcome)
    (final : State) :
    Prop where
  failure?_eq : outcome.failure? = request.firstFault? access state
  exitCode_eq :
    outcome.exitCode =
      if (request.firstFault? access state).isSome then 1 else 0
  failed_keeps :
    outcome.exitCode = 1 →
    outcome.output = "" ∧ (view final).SameFiles (view state)
  reading_keeps :
    request.writes = false →
    (view final).SameFiles (view state)
  encoded :
    ∀ file output? deviceId production,
      request = .encode file output? deviceId production →
      outcome.exitCode = 0 →
      ∃ device text script code,
        Registry.builtin.find? deviceId = some device ∧
          (view state).read file = .ok text.toUTF8 ∧
          (Script.read text file).outcome = .ok script ∧
          (Encoder.encode (.withSafeMode {} !production) script
              device).outcome =
            .ok code ∧
          FileSystem.Written (view state) (view final)
            (destination output? file device) code.toUTF8

end Statement

/-! ## The stages of a request -/

section Stages

variable
  {State : Type}
  {view : State → FileSystem}
  {access : FileAccess (StateM State)}
  {state ready final : State}
  {file : String}

/-- A program is asked for, the device is known and the script was read. -/
structure Prepared
    (access : FileAccess (StateM State))
    (request : Request)
    (state : State)
    (file : String)
    (output? : Option String)
    (production : Bool)
    (device : Device)
    (script : Script)
    (ready : State) :
    Prop where
  request_eq :
    ∃ deviceId,
      request = .encode file output? deviceId production ∧
        Registry.builtin.find? deviceId = some device
  found :
    (readScript access file).runFrom "" state = ((.ok script, ""), ready)

/--
All ways in which carrying out a request can end, with what has been printed.
-/
inductive Ends
    (access : FileAccess (StateM State))
    (request : Request)
    (state : State) :
    Except Failure Unit → String → State → Prop where
  | unknownDevice
      {failure : Failure} :
      request.deviceFault? = some failure →
      Ends access request state (.error failure) "" state
  | listed
      {printed : String} :
      request = .devices →
      Ends access request state (.ok ()) printed state
  | unread
      {file : String}
      {failure : Failure}
      {ready : State} :
      request.deviceFault? = none →
      request.file? = some file →
      (readScript access file).runFrom "" state =
        ((.error failure, ""), ready) →
      Ends access request state (.error failure) "" ready
  | examined
      {file : String}
      {script : Script}
      {printed : String}
      {ready : State} :
      request.writes = false →
      request.deviceFault? = none →
      request.file? = some file →
      (readScript access file).runFrom "" state = ((.ok script, ""), ready) →
      Ends access request state (.ok ()) printed ready
  | unencodable
      {file : String}
      {output? : Option String}
      {production : Bool}
      {device : Device}
      {script : Script}
      {failure : Failure}
      {ready : State} :
      Prepared access request state file output? production device script
        ready →
      (Encoder.encode (.withSafeMode {} !production) script
          device).outcome =
        .error failure →
      Ends access request state (.error failure) "" ready
  | unwritten
      {file : String}
      {output? : Option String}
      {production : Bool}
      {device : Device}
      {script : Script}
      {code : String}
      {fault : FileFault}
      {ready final : State} :
      Prepared access request state file output? production device script
        ready →
      (Encoder.encode (.withSafeMode {} !production) script
          device).outcome =
        .ok code →
      (access.write (destination output? file device) code).run ready =
        (.error fault, final) →
      Ends access request state
        (.error (.write (destination output? file device) fault)) "" final
  | encoded
      {file : String}
      {output? : Option String}
      {production : Bool}
      {device : Device}
      {script : Script}
      {code : String}
      {printed : String}
      {ready final : State} :
      Prepared access request state file output? production device script
        ready →
      (Encoder.encode (.withSafeMode {} !production) script
          device).outcome =
        .ok code →
      (access.write (destination output? file device) code).run ready =
        (.ok (), final) →
      Ends access request state (.ok ()) printed final

/-- A request for a device starts with looking the device up. -/
theorem deviceFault?_eq
    {request : Request}
    {deviceId : String}
    (isFor : request.deviceId? = some deviceId) :
    request.deviceFault? = faultOf? (Registry.builtin.resolve deviceId) := by
  rw [Request.deviceFault?, isFor]
  rfl

/-- A program for a script that was read goes where it should. -/
theorem output_eq
    (faithful : FileAccess.Faithful view access)
    {script : Script}
    {printed between : String}
    (found :
      (readScript access file).runFrom printed state =
        ((.ok script, between), ready))
    (output? : Option String)
    (device : Device) :
    output?.getD (defaultOutput file device) =
      destination output? file device := by
  obtain ⟨text, read, _⟩ := exists_text_of_runFrom_readScript found
  exact getD_defaultOutput (faithful.read_ok read) output? device

section Endings

variable
  {result : Except Failure Unit}
  {printed : String}

/-- Parsing a file ends in one of these ways. -/
theorem ends_of_performParse
    {verbose : Bool}
    (done :
      (performParse access verbose file).runFrom "" state =
        ((result, printed), final)) :
    Ends access (.parse file) state result printed final := by
  rcases found : (readScript access file).runFrom "" state with
    ⟨⟨outcome, between⟩, ready⟩
  obtain ⟨rfl, _⟩ := runFrom_readScript_cases found
  cases outcome with
  | error failure =>
      rw [performParse, runFrom_bind_of_error found] at done
      cases done
      exact .unread rfl rfl found
  | ok script =>
      rw [runFrom_performParse found] at done
      cases done
      exact .examined rfl rfl rfl found

/-- Validating a file ends in one of these ways. -/
theorem ends_of_performValidate
    {verbose : Bool}
    {deviceId : String}
    (done :
      (performValidate access verbose file deviceId).runFrom "" state =
        ((result, printed), final)) :
    Ends access (.validate file deviceId) state result printed final := by
  have lookUp := @deviceFault?_eq (.validate file deviceId) _ rfl
  cases known : Registry.builtin.resolve deviceId with
  | error failure =>
      rw [performValidate,
        runFrom_bind_of_error (runFrom_takeOver known "" state)] at done
      cases done
      rw [known] at lookUp
      exact .unknownDevice lookUp
  | ok device =>
      rw [known] at lookUp
      rcases found : (readScript access file).runFrom "" state with
        ⟨⟨outcome, between⟩, ready⟩
      obtain ⟨rfl, _⟩ := runFrom_readScript_cases found
      cases outcome with
      | error failure =>
          rw [runFrom_performValidate_of_unread found known] at done
          cases done
          exact .unread lookUp rfl found
      | ok script =>
          rw [runFrom_performValidate found known] at done
          cases done
          exact .examined rfl lookUp rfl found

/-- Encoding a file ends in one of these ways. -/
theorem ends_of_performEncode
    (faithful : FileAccess.Faithful view access)
    {output? : Option String}
    {deviceId : String}
    {production : Bool}
    (done :
      (performEncode access file output? deviceId production).runFrom ""
          state =
        ((result, printed), final)) :
    Ends access (.encode file output? deviceId production) state result
      printed final := by
  have lookUp :=
    @deviceFault?_eq (.encode file output? deviceId production) _ rfl
  cases known : Registry.builtin.resolve deviceId with
  | error failure =>
      rw [performEncode,
        runFrom_bind_of_error (runFrom_takeOver known "" state)] at done
      cases done
      rw [known] at lookUp
      exact .unknownDevice lookUp
  | ok device =>
      rw [known] at lookUp
      rcases found : (readScript access file).runFrom "" state with
        ⟨⟨outcome, between⟩, ready⟩
      obtain ⟨rfl, _⟩ := runFrom_readScript_cases found
      cases outcome with
      | error failure =>
          rw [runFrom_performEncode_of_unread found known] at done
          cases done
          exact .unread lookUp rfl found
      | ok script =>
          have prepared :
              Prepared access (.encode file output? deviceId production)
                state file output? production device script ready :=
            ⟨⟨deviceId, rfl, Registry.resolve_eq_ok.mp known⟩, found⟩
          have isOutput := output_eq faithful found output? device
          cases encoded :
              (Encoder.encode (.withSafeMode {} !production) script
                device).outcome with
          | error failure =>
              rw [runFrom_performEncode_of_error found known encoded] at done
              cases done
              exact .unencodable prepared encoded
          | ok code =>
              rcases wrote :
                  (access.write (output?.getD (defaultOutput file device))
                    code).run ready with
                ⟨written, after⟩
              cases written with
              | error fault =>
                  rw [runFrom_performEncode_of_fault found known encoded
                    wrote] at done
                  cases done
                  rw [isOutput] at wrote ⊢
                  exact .unwritten prepared encoded wrote
              | ok _ =>
                  rw [runFrom_performEncode found known encoded wrote] at done
                  cases done
                  rw [isOutput] at wrote
                  exact .encoded prepared encoded wrote

/-- Carrying out a request ends in one of these ways. -/
theorem ends_of_perform
    (faithful : FileAccess.Faithful view access)
    {invocation : Invocation}
    (done :
      (invocation.perform access).runFrom "" state =
        ((result, printed), final)) :
    Ends access invocation.request state result printed final := by
  rcases invocation with ⟨verbose, request⟩
  cases request with
  | parse file =>
      exact ends_of_performParse done
  | encode file output? deviceId production =>
      exact ends_of_performEncode faithful done
  | validate file deviceId =>
      exact ends_of_performValidate done
  | devices =>
      rw [Invocation.perform, prints_lines] at done
      cases done
      exact .listed rfl

end Endings

/-- The faults of reading do not occur if the file holds a text. -/
theorem reads_text
    {request : Request}
    {text : String}
    (isFile : request.file? = some file)
    (found : (access.read file).run state = (.ok text.toUTF8, ready)) :
    request.readFault? access state = none ∧
      request.text? access state = some text := by
  have isText : String.fromUTF8? text.toUTF8 = some text :=
    fromUTF8?_eq_some.mpr rfl
  simp only [Request.readFault?, Request.text?, isFile, found,
    Option.bind_some, Except.toOption, isText, Option.isSome_some,
    ↓reduceIte, and_self]

/-- A script that is read leaves no fault up to then. -/
theorem exists_text_of_readScript
    {request : Request}
    {script : Script}
    (isFile : request.file? = some file)
    {printed between : String}
    (found :
      (readScript access file).runFrom printed state =
        ((.ok script, between), ready)) :
    ∃ text,
      (access.read file).run state = (.ok text.toUTF8, ready) ∧
        (Script.read text file).outcome = .ok script ∧
        request.text? access state = some text ∧
        request.readFault? access state = none ∧
        request.scriptFault? access state = none := by
  obtain ⟨text, read, isScript⟩ := exists_text_of_runFrom_readScript found
  obtain ⟨noFault, isText⟩ := reads_text isFile read
  refine ⟨text, read, isScript, isText, noFault, ?_⟩
  simp [Request.scriptFault?, isFile, isText, isScript, faultOf?]

/-- What is known of a request whose program can be encoded. -/
theorem Prepared.stages
    {request : Request}
    {output? : Option String}
    {production : Bool}
    {device : Device}
    {script : Script}
    (prepared :
      Prepared access request state file output? production device script
        ready) :
    request.deviceFault? = none ∧
      request.readFault? access state = none ∧
      request.scriptFault? access state = none ∧
      request.encodeFault? access state =
        faultOf?
          (Encoder.encode (.withSafeMode {} !production) script
            device).outcome ∧
      request.writeFault? access state =
        (Encoder.encode (.withSafeMode {} !production) script
            device).outcome.toOption.bind fun code =>
          (faultOf?
              ((access.write (destination output? file device) code).run
                ready).1).map
            (.write (destination output? file device)) := by
  obtain ⟨⟨deviceId, isRequest, isDevice⟩, found⟩ := prepared
  have isFile : request.file? = some file := by
    rw [isRequest]
    rfl
  have lookUp : request.deviceFault? = none := by
    rw [isRequest, deviceFault?_eq rfl, Registry.resolve_eq_ok.mpr isDevice]
    rfl
  obtain ⟨text, read, isScript, isText, noReadFault, noScriptFault⟩ :=
    exists_text_of_readScript isFile found
  refine ⟨lookUp, noReadFault, noScriptFault, ?_, ?_⟩
  · subst isRequest
    simp [Request.encodeFault?, isDevice, isText, isScript,
      Except.toOption]
  · subst isRequest
    simp [Request.writeFault?, isDevice, isText, isScript, read,
      Except.toOption]

/-- However a request ends, its fault is the first one of its stages. -/
theorem Ends.firstFault?_eq
    {request : Request}
    {result : Except Failure Unit}
    {printed : String}
    (ends : Ends access request state result printed final) :
    request.firstFault? access state = faultOf? result := by
  unfold Request.firstFault?
  cases ends with
  | unknownDevice isFault =>
      simp [isFault, faultOf?]
  | listed isRequest =>
      subst isRequest
      rfl
  | unread noDeviceFault isFile found =>
      obtain ⟨_, ⟨fault, read, isFailure⟩ |
        ⟨content, read, notText, isFailure⟩ | ⟨text, read, isFailure⟩⟩ :=
        runFrom_readScript_cases found
      · cases isFailure
        simp [noDeviceFault, Request.readFault?, isFile, read, faultOf?]
      · cases isFailure
        simp [noDeviceFault, Request.readFault?, isFile, read, notText,
          faultOf?]
      · obtain ⟨noReadFault, isText⟩ := reads_text isFile read
        simp [noDeviceFault, noReadFault, Request.scriptFault?, isFile,
          isText, ← isFailure, faultOf?]
  | examined readsOnly noDeviceFault isFile found =>
      obtain ⟨text, _, _, _, noReadFault, noScriptFault⟩ :=
        exists_text_of_readScript isFile found
      cases request with
      | encode file output? deviceId production =>
          cases readsOnly
      | _ =>
          simp [noDeviceFault, noReadFault, noScriptFault,
            Request.encodeFault?, Request.writeFault?, faultOf?]
  | unencodable prepared isFailure =>
      obtain ⟨noDeviceFault, noReadFault, noScriptFault, encodes, _⟩ :=
        prepared.stages
      simp [noDeviceFault, noReadFault, noScriptFault, encodes, isFailure,
        faultOf?]
  | unwritten prepared isCode wrote | encoded prepared isCode wrote =>
      obtain ⟨noDeviceFault, noReadFault, noScriptFault, encodes, writes⟩ :=
        prepared.stages
      simp [noDeviceFault, noReadFault, noScriptFault, encodes, writes,
        isCode, wrote, Except.toOption, faultOf?]

end Stages

/-! ## What requests do to files -/

section Files

variable
  {State : Type}
  {view : State → FileSystem}
  {access : FileAccess (StateM State)}
  (faithful : FileAccess.Faithful view access)
  {request : Request}
  {state ready final : State}

include faithful

/-- Reading a script keeps all files. -/
theorem sameFiles_of_readScript
    {file : String}
    {result : Except Failure Script}
    {printed between : String}
    (done :
      (readScript access file).runFrom printed state =
        ((result, between), ready)) :
    (view ready).SameFiles (view state) := by
  obtain ⟨_, ⟨_, read, _⟩ | ⟨_, read, _, _⟩ | ⟨_, read, _⟩⟩ :=
    runFrom_readScript_cases done
  · exact faithful.read_keeps read
  · exact faithful.read_keeps read
  · exact faithful.read_keeps read

/-- A request that fails prints nothing and keeps all files. -/
theorem Ends.keeps_of_error
    {failure : Failure}
    {printed : String}
    (ends : Ends access request state (.error failure) printed final) :
    printed = "" ∧ (view final).SameFiles (view state) := by
  cases ends with
  | unknownDevice _ =>
      exact ⟨rfl, FileSystem.SameFiles.refl _⟩
  | unread _ _ found =>
      exact ⟨rfl, sameFiles_of_readScript faithful found⟩
  | unencodable prepared _ =>
      exact ⟨rfl, sameFiles_of_readScript faithful prepared.found⟩
  | unwritten prepared _ wrote =>
      exact ⟨rfl, (faithful.write_keeps wrote).trans
        (sameFiles_of_readScript faithful prepared.found)⟩

/-- A request for no program keeps all files. -/
theorem Ends.keeps_of_reading
    {result : Except Failure Unit}
    {printed : String}
    (ends : Ends access request state result printed final)
    (readsOnly : request.writes = false) :
    (view final).SameFiles (view state) := by
  cases result with
  | error failure =>
      exact (ends.keeps_of_error faithful).2
  | ok _ =>
      cases ends with
      | listed _ =>
          exact FileSystem.SameFiles.refl _
      | examined _ _ _ found =>
          exact sameFiles_of_readScript faithful found
      | encoded prepared _ _ =>
          obtain ⟨_, isRequest, _⟩ := prepared.request_eq
          rw [isRequest] at readsOnly
          cases readsOnly

/-- A program that is written is the only change. -/
theorem Ends.written
    {printed : String}
    (ends : Ends access request state (.ok ()) printed final)
    {file : String}
    {output? : Option String}
    {deviceId : String}
    {production : Bool}
    (isRequest : request = .encode file output? deviceId production) :
    ∃ device text script code,
      Registry.builtin.find? deviceId = some device ∧
        (view state).read file = .ok text.toUTF8 ∧
        (Script.read text file).outcome = .ok script ∧
        (Encoder.encode (.withSafeMode {} !production) script
            device).outcome =
          .ok code ∧
        FileSystem.Written (view state) (view final)
          (destination output? file device) code.toUTF8 := by
  cases ends with
  | listed other =>
      rw [isRequest] at other
      cases other
  | examined readsOnly _ _ _ =>
      rw [isRequest] at readsOnly
      cases readsOnly
  | @encoded _ _ _ device script code _ ready _ prepared isCode wrote =>
      obtain ⟨_, same, isDevice⟩ := prepared.request_eq
      rw [isRequest] at same
      cases same
      have isFile : request.file? = some file := by
        rw [isRequest]
        rfl
      obtain ⟨text, read, isScript, _⟩ :=
        exists_text_of_readScript isFile prepared.found
      have written := FileSystem.written_of_write (faithful.write_ok wrote)
      exact ⟨device, text, script, code, isDevice, faithful.read_ok read,
        isScript, isCode,
        written.of_sameFiles (sameFiles_of_readScript faithful prepared.found)⟩

end Files

/-- A run carries out the request that was read from its arguments. -/
theorem run_of_accepted
    {State : Type}
    {access : FileAccess (StateM State)}
    {reader : ArgumentReader}
    {arguments : List String}
    {invocation : Invocation}
    (accepted : reader arguments = .ok invocation)
    {state final : State}
    {result : Except Failure Unit}
    {printed : String}
    (done :
      (invocation.perform access).runFrom "" state =
        ((result, printed), final)) :
    (runWith reader access arguments).run state =
      (match result with
        | .error failure => .failed failure printed
        | .ok () => .finished printed,
        final) := by
  rw [Console.runFrom] at done
  simp only [runWith, accepted, StateT.run_bind, done]
  cases result <;> rfl

/-- Writing to a file system that is the state. -/
theorem FileSystem.run_write
    (path text : String)
    (system : FileSystem) :
    (FileSystem.access.write path text).run system =
      match system.write path text.toUTF8 with
      | .ok next => (.ok (), next)
      | .error fault => (.error fault, system) := by
  simp only [FileSystem.access, StateT.run_bind, StateT.run_get]
  cases written : system.write path text.toUTF8 with
  | error fault =>
      simp only [pure_bind, written]
      rfl
  | ok next =>
      simp only [pure_bind, written]
      rfl

/-- A file system that is the state keeps its word. -/
theorem FileSystem.faithful_access :
    FileAccess.Faithful id FileSystem.access where
  read_ok := by
    intro path system content after done
    exact (Prod.mk.inj done).1
  read_keeps := by
    intro path system result after done
    rw [← (Prod.mk.inj done).2]
    exact SameFiles.refl system
  write_ok := by
    intro path text system after done
    rw [run_write] at done
    split at done
    · rename_i next written
      cases done
      exact written
    · cases done
  write_keeps := by
    intro path text system fault after done
    rw [run_write] at done
    split at done
    · cases done
    · cases done
      exact SameFiles.refl system

/--
With an access to files that keeps its word, every run on arguments that were
read as a request does all that it is asked for, or nothing, whatever the files
are and however arguments are read.
-/
theorem run_all_or_nothing
    {State : Type}
    {view : State → FileSystem}
    {access : FileAccess (StateM State)}
    (faithful : FileAccess.Faithful view access)
    {reader : ArgumentReader}
    {arguments : List String}
    {invocation : Invocation}
    (accepted : reader arguments = .ok invocation)
    (state : State) :
    AllOrNothing view access invocation.request state
      ((runWith reader access arguments).run state).1
      ((runWith reader access arguments).run state).2 := by
  rcases done : (invocation.perform access).runFrom "" state with
    ⟨⟨result, printed⟩, final⟩
  have ends := ends_of_perform faithful done
  have firstFault := ends.firstFault?_eq
  rw [run_of_accepted accepted done]
  cases result with
  | error failure =>
      exact
        { failure?_eq := firstFault.symm
          exitCode_eq := by
            rw [firstFault]
            rfl
          failed_keeps := fun _ => ends.keeps_of_error faithful
          reading_keeps := ends.keeps_of_reading faithful
          encoded := by
            intro file output? deviceId production _ exits
            cases exits }
  | ok _ =>
      exact
        { failure?_eq := firstFault.symm
          exitCode_eq := by
            rw [firstFault]
            rfl
          failed_keeps := by
            intro exits
            cases exits
          reading_keeps := ends.keeps_of_reading faithful
          encoded := by
            intro file output? deviceId production isRequest _
            exact ends.written faithful isRequest }

/-- A folder with a script of one line. -/
def oneScript :
    FileSystem :=
  .ofFiles ["home"] [("keys.txt", "ENTER".toUTF8)]

/-- A program is asked for, and it is named after its script. -/
theorem run_all_or_nothing_oneScript :
    Invocation.ofArguments ["encode", "keys.txt"] =
        .ok ⟨false, .encode "keys.txt" none "xiao_rp2040" false⟩ ∧
      AllOrNothing id FileSystem.access
        (.encode "keys.txt" none "xiao_rp2040" false) oneScript
        ((runWith Invocation.ofArguments FileSystem.access
          ["encode", "keys.txt"]).run oneScript).1
        ((runWith Invocation.ofArguments FileSystem.access
          ["encode", "keys.txt"]).run oneScript).2 ∧
      ((runWith Invocation.ofArguments FileSystem.access
          ["encode", "keys.txt"]).run oneScript).1.exitCode = 0 ∧
      ((runWith Invocation.ofArguments FileSystem.access
          ["encode", "keys.txt"]).run oneScript).2.relativeFiles.map Prod.fst =
        ["keys.txt", "compiled/keys.py"] := by
  have accepted :
      Invocation.ofArguments ["encode", "keys.txt"] =
        .ok ⟨false, .encode "keys.txt" none "xiao_rp2040" false⟩ :=
    rfl
  exact ⟨accepted,
    run_all_or_nothing FileSystem.faithful_access accepted oneScript,
    by decide +kernel, by decide +kernel⟩

end Keystroke.CommandLine
