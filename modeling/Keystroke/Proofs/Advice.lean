import Keystroke.Proofs.Warnings

namespace Keystroke

/-!
# What advice foretells

Advice about a script is given before the script is encoded, by code of its own.
For commands that were not read from a text it foretells less than encoding
finds out.  The value of a delay is taken as it stands, while encoding trims it
first, so a long delay is passed over if there are blanks around its value.  And
a key without a symbol is remarked on only if it is a command of its own: a
combination with such a key is refused without advice.
-/

/-! ## Delays -/

namespace Text

/-- A numeral is a word. -/
theorem Numeral.word
    {characters : List Char}
    {value : Int}
    (numeral : Numeral characters value) :
    Word characters := by
  constructor
  · cases numeral with
    | unsigned notEmpty _ =>
        exact notEmpty
    | positive | negative =>
        exact List.cons_ne_nil _ _
  · refine numeral.forall_mem (by decide) (by decide) ?_
    intro digit isDigit
    have codes : 48 ≤ digit.toNat ∧ digit.toNat ≤ 57 :=
      Char.isDigit_iff_toNat.mp isDigit
    exact isSpace_of_visible (by omega)

/-- A text with blanks around it is no integer. -/
theorem integer?_eq_none_of_trim_ne
    {text : String}
    (padded : trim text ≠ text) :
    integer? text = none := by
  cases reading : integer? text with
  | none =>
      rfl
  | some value =>
      have numeral := (integer?_eq_some.mp reading).1
      exact absurd (trim_eq_self.mpr numeral.word.trimmed) padded

end Text

namespace Script

/-- What is said beforehand about a delay that waits for a time. -/
structure DelayAdvice
    (script : Script)
    (command : Command)
    (value : String)
    (time : Text.Milliseconds) :
    Prop where
  parameter : command.firstParameter? = some value
  listed : script.advice = script.commands.filterMap commandAdvice?
  warned :
    commandAdvice? command =
      if 60000 < time.toNat ∧ Text.trim value = value then
        some
          ("Line " ++ command.line.repr ++ ": Very long delay (" ++
            time.toNat.repr ++ "ms) - this might be an error")
      else
        none
  skipped : Text.integer? value = none ↔ Text.trim value ≠ value
  trimmed :
    ∀ text source, (read text source).outcome = .ok script →
      Text.trim value = value

/-- A delay is warned of by its time if its value is trimmed. -/
theorem commandAdvice?_delay
    {pause : Text.Milliseconds}
    {command : Command}
    {plan : Plan KeyName}
    {value : String}
    {time : Text.Milliseconds}
    (planned : Command.Planned pause command plan)
    (parameter : command.firstParameter? = some value)
    (isTime : command.delayedTime? pause = some time) :
    commandAdvice? command =
      if 60000 < time.toNat ∧ Text.trim value = value then
        some
          ("Line " ++ command.line.repr ++ ": Very long delay (" ++
            time.toNat.repr ++ "ms) - this might be an error")
      else
        none := by
  by_cases trimmed : Text.trim value = value
  · rw [commandAdvice?_eq _ planned, Command.delayWarning?, isTime]
    · simp [trimmed]
    · intro other _ otherParameter
      rw [parameter] at otherParameter
      cases otherParameter
      exact trimmed
  · simp [commandAdvice?, parameter,
      Text.integer?_eq_none_of_trim_ne trimmed, trimmed]

/--
Every delay that can be encoded is warned of if its time is more than a minute
and there are no blanks around its value.  A value is passed over as no integer
exactly if there are blanks around it, which cannot be in a script that was
read.
-/
theorem delayAdvice_of_planFor
    {script : Script}
    {command : Command}
    (member : command ∈ script.commands)
    (kind : command.kind = .delay)
    {device : Device}
    {pause : Text.Milliseconds}
    {previous? : Option Command}
    {plan : Plan String}
    (accepted : command.planFor device pause previous? = .ok plan) :
    ∃ value time,
      plan.steps.map Step.action = [.wait time] ∧
        script.DelayAdvice command value time := by
  obtain ⟨named, planned, _, rfl⟩ :=
    Command.exists_planned_of_planFor (by rw [kind]; simp) accepted
  obtain ⟨value, number, time, parameter, reads, _, steps⟩ :=
    planned.ownSteps_delay kind
  have isTime : command.delayedTime? pause = some time := by
    simp [Command.delayedTime?, kind, steps, Step.noted, Action.wait?]
  refine ⟨value, time, ?_, parameter, ?_, ?_, ?_, ?_⟩
  · rw [Plan.steps_mapKey, ← planned.ownSteps_eq, steps]
    rfl
  · have notEmpty : script.isEmpty = false := by
      rw [isEmpty, List.isEmpty_eq_false_iff]
      exact List.ne_nil_of_mem member
    rw [advice, notEmpty]
    rfl
  · exact commandAdvice?_delay planned parameter isTime
  · constructor
    · intro skipped trimmed
      have readsIt := reads.reads
      rw [trimmed, skipped] at readsIt
      cases readsIt
    · exact Text.integer?_eq_none_of_trim_ne
  · intro text source wasRead
    exact (wasRead_of_read wasRead command member).trim_of_delay kind
      parameter

/-- A delay of seventy seconds with a blank before its value. -/
def paddedDelay :
    Command where
  kind := .delay
  line := 1
  rawText := "DELAY  70000"
  parameters := [" 70000"]

/-- A padded delay of seventy seconds is encoded without a warning. -/
theorem delayAdvice_of_planFor_paddedDelay :
    ((paddedDelay.planFor
          (.standard "raspberry_pi_pico" "Raspberry Pi Pico" .circuitPython)
          5000 none).map
        fun plan => plan.steps.map Step.action) =
        .ok [.wait 70000] ∧
      (Script.mk [paddedDelay] "<string>" 1).advice = [] ∧
      (Script.mk [paddedDelay] "<string>" 1).DelayAdvice paddedDelay
        " 70000" 70000 := by
  have accepted :
      paddedDelay.planFor
          (.standard "raspberry_pi_pico" "Raspberry Pi Pico" .circuitPython)
          5000 none =
        .ok (.ofSteps [.noted (.wait 70000) "Delay for 70000ms"]) := by
    decide
  obtain ⟨value, time, waits, advised⟩ :=
    @delayAdvice_of_planFor (Script.mk [paddedDelay] "<string>" 1)
      paddedDelay List.mem_cons_self rfl _ _ _ _ accepted
  cases waits
  cases advised.parameter
  exact ⟨by rw [accepted]; rfl, by decide, advised⟩

end Script

/-! ## Keys -/

/-- The text starts, and not with the given character. -/
def Text.StartsApart
    (sign : Char)
    (text : String) :
    Prop :=
  ∃ first, text.toList.head? = some first ∧ first ≠ sign

/-- A text that goes on starts as before. -/
theorem Text.StartsApart.append
    {sign : Char}
    {text more : String}
    (apart : StartsApart sign text) :
    StartsApart sign (text ++ more) := by
  obtain ⟨first, isFirst, isOther⟩ := apart
  refine ⟨first, ?_, isOther⟩
  rw [String.toList_append, List.head?_append, isFirst]
  rfl

/-- A cause that is found before a key is looked up says nothing of keys. -/
theorem Cause.startsApart_message
    {cause : Cause}
    (isOfPlanning : cause.isOfPlanning) :
    Text.StartsApart 'U' cause.message := by
  cases cause with
  | missingParameter kind what =>
      apply Text.StartsApart.append
      apply Text.StartsApart.append
      cases kind with
      | key | custom =>
          cases isOfPlanning
      | _ =>
          exact ⟨_, rfl, by decide⟩
  | invalidDuration role value =>
      exact .append (.append (.append (.append ⟨_, rfl, by decide⟩)))
  | negativeDuration role =>
      apply Text.StartsApart.append
      cases role with
      | _ =>
          exact ⟨_, rfl, by decide⟩
  | invalidCount value =>
      exact .append (.append ⟨_, rfl, by decide⟩)
  | neitherOnNorOff | emptyRange | countBelowOne | nothingToRepeat
  | repeatOfRepeat =>
      exact ⟨_, rfl, by decide⟩
  | unsupportedKey kind deviceId =>
      cases isOfPlanning

/-- A message about a key is not that of a fault found before. -/
theorem EncodeFault.message_ne_of_isOfPlanning
    {fault : EncodeFault}
    (isOfPlanning : fault.cause.isOfPlanning)
    (rest : String) :
    fault.message ≠ "Unsupported key: " ++ rest := by
  have apart : Text.StartsApart 'U' fault.message :=
    (Cause.startsApart_message isOfPlanning).append.append
  obtain ⟨first, isFirst, isOther⟩ := apart
  intro same
  rw [same, String.toList_append, List.head?_append] at isFirst
  cases isFirst
  exact isOther rfl

namespace Command

/-- Only a key without a symbol is refused, and its name is reported. -/
theorem exists_key_of_symbolFor_eq_error
    {command : Command}
    {device : Device}
    {name : KeyName}
    {fault : EncodeFault}
    (refused : command.symbolFor device name = .error fault) :
    ∃ key,
      name = .known key ∧
        ¬ device.Knows (.key key) ∧
        fault = command.fault (.unsupportedKey (.key key) device.id) := by
  cases name with
  | spelled token =>
      cases refused
  | known key =>
      simp only [symbolFor] at refused
      split at refused
      · cases refused
      · rename_i noSymbol
        cases refused
        refine ⟨key, rfl, ?_, rfl⟩
        simp [Device.Knows, noSymbol]

/-- The keys that a command names: its own, or those of its tokens. -/
inductive Names
    (command : Command) :
    KeyName → Prop where
  | single
      {key : Key} :
      command.kind = .key key →
      Names command (.known key)
  | combined
      {token : String} :
      command.kind = .combination →
      token ∈ command.parameters →
      Names command (.ofToken token)

/-- A command by itself presses no keys but those it names. -/
theorem Planned.usesOnly_names
    {pause : Text.Milliseconds}
    {command : Command}
    {plan : Plan KeyName}
    (planned : Planned pause command plan) :
    plan.UsesOnly command.Names := by
  cases planned with
  | key kind =>
      refine usesOnly_chord.mpr ?_
      rw [List.forall_mem_singleton]
      exact .single kind
  | combination kind _ =>
      refine usesOnly_chord.mpr ?_
      rw [List.forall_mem_map]
      intro token member
      exact .combined kind member
  | _ =>
      exact usesOnly_of_no_keys rfl _

/-- A command that is refused for a key names a key without a symbol. -/
theorem exists_names_of_planFor_eq_error
    {command : Command}
    {device : Device}
    {pause : Text.Milliseconds}
    {previous? : Option Command}
    (previousEncodable :
      ∀ previous ∈ previous?, ∃ before?,
        previous.EncodableAfter device.Knows before?)
    {fault : EncodeFault}
    (refused : command.planFor device pause previous? = .error fault)
    (ofKeys : ¬ fault.cause.isOfPlanning) :
    ∃ key,
      command.Names (.known key) ∧
        ¬ device.Knows (.key key) ∧
        fault = command.fault (.unsupportedKey (.key key) device.id) := by
  cases planned : command.plan pause previous? with
  | error found =>
      rw [planFor, planned] at refused
      cases refused
      exact absurd
        (command.faultsOnly_plan previousEncodable fault planned).isOfPlanning
        ofKeys
  | ok named =>
      rcases plan_eq_ok.mp planned with direct | replayed
      · rw [planFor, planned, performed_of_ne_replay direct.kind_ne_replay]
          at refused
        obtain ⟨step, isStep, name, isName, nameRefused⟩ :=
          Plan.exists_key_of_resolve_eq_error refused
        obtain ⟨key, rfl, unknown, isFault⟩ :=
          exists_key_of_symbolFor_eq_error nameRefused
        exact ⟨key, direct.usesOnly_names step isStep _ isName, unknown,
          isFault⟩
      · -- The command before was encoded, so its keys have symbols.
        obtain ⟨plan, done⟩ := replayed.succeeds_planFor previousEncodable
        rw [refused] at done
        cases done

end Command

namespace Device

/-- The entry of the advice about a command that may not be supported. -/
def announcement
    (device : Device)
    (command : Command) :
    String :=
  "Line " ++ command.line.repr ++ ": Command '" ++ command.kind.keyword ++
    "' may not be fully supported on " ++ device.name

/-- What is said beforehand about a command with a key without a symbol. -/
inductive KeyAdvice
    (device : Device)
    (script : Script)
    (command : Command)
    (key : Key) :
    Prop where
  | announced :
      command.kind = .key key →
      device.announcement command ∈ device.advice script →
      KeyAdvice device script command key
  | passedOver
      {token : String} :
      command.kind = .combination →
      token ∈ command.parameters →
      KeyName.ofToken token = .known key →
      device.supportAdvice command ++ lengthAdvice command = [] →
      KeyAdvice device script command key

/-- A key without a symbol is announced unless it is in a combination. -/
theorem keyAdvice_of_names
    {device : Device}
    {script : Script}
    {command : Command}
    (member : command ∈ script.commands)
    {key : Key}
    (names : command.Names (.known key))
    (unknown : ¬ device.Knows (.key key)) :
    device.KeyAdvice script command key := by
  generalize isName : KeyName.known key = name at names
  cases names with
  | single kind =>
      cases isName
      have lacksKey : device.lacks command.kind := by
        rw [Knows, Vocabulary.symbol?, Option.isSome_map] at unknown
        simp [kind, lacks, Roster.contains, unknown]
      refine .announced kind (List.mem_flatMap.mpr ⟨command, member, ?_⟩)
      rw [supportAdvice, if_pos lacksKey]
      exact List.mem_append_left _ List.mem_cons_self
  | combined kind isToken =>
      refine .passedOver kind isToken isName.symm ?_
      simp [supportAdvice, lengthAdvice, lacks, kind]

end Device

namespace Stateless

/--
If encoding fails because of a key without a symbol, then the first command that
cannot be encoded names the key.  The advice announces this command if it is the
command of the key, and says nothing about it if it is a combination.
-/
theorem keyAdvice_of_encode_unsupported
    {config : EncoderConfig}
    {script : Script}
    {device : Device}
    {rest : String}
    (failed :
      (Encoder.encode config script device).outcome =
        .error (.encode ("Unsupported key: " ++ rest))) :
    ∃ index command key,
      script.commands[index]? = some command ∧
        (∀ before, before < index →
          EncodableAt device.Knows script.commands before) ∧
        ¬ device.Knows (.key key) ∧
        "Unsupported key: " ++ rest =
          (command.fault (.unsupportedKey (.key key) device.id)).message ∧
        device.KeyAdvice script command key := by
  rw [encode_outcome, program] at failed
  cases written : blocks config device script.commands with
  | ok lines =>
      rw [written] at failed
      cases failed
  | error fault =>
      rw [written] at failed
      have isMessage : fault.message = "Unsupported key: " ++ rest :=
        Failure.encode.inj (Except.error.inj failed)
      obtain ⟨index, command, atIndex, blockFailed, done⟩ :=
        exists_first_of_blocks_eq_error written
      have earlier := encodableAt_of_succeeds done
      have inRange : index < script.commands.length :=
        (List.getElem?_eq_some_iff.mp atIndex).1
      have refused := block_eq_error.mp blockFailed
      rw [getLast?_take inRange] at refused
      obtain ⟨key, names, unknown, isFault⟩ :=
        Command.exists_names_of_planFor_eq_error
          (exists_encodable_before earlier) refused
          fun isOfPlanning =>
            EncodeFault.message_ne_of_isOfPlanning isOfPlanning rest isMessage
      refine ⟨index, command, key, atIndex, earlier, unknown, ?_, ?_⟩
      · rw [← isMessage, isFault]
      · exact Device.keyAdvice_of_names (List.mem_of_getElem? atIndex) names
          unknown

/-- A device without a symbol for any key. -/
def bare :
    Device :=
  { Device.standard "bare" "Bare" .circuitPython with
    vocabulary := Roster.ofList [] }

/-- A combination that the bare device cannot press. -/
def startMenu :
    Script where
  commands := [⟨.combination, 1, "MOD r", ["MOD", "r"]⟩]
  source := "<string>"
  totalLines := 1

/-- The modifier of a combination is refused, and nothing was said of it. -/
theorem keyAdvice_of_encode_unsupported_startMenu :
    (Encoder.encode {} startMenu bare).outcome =
        .error
          (.encode
            ("Unsupported key: " ++
              "MOD for device bare in command: MOD r")) ∧
      bare.advice startMenu = [] ∧
      ∃ key,
        ¬ bare.Knows (.key key) ∧
          bare.KeyAdvice startMenu
            ⟨.combination, 1, "MOD r", ["MOD", "r"]⟩ key := by
  have failed :
      (Encoder.encode {} startMenu bare).outcome =
        .error
          (.encode
            ("Unsupported key: " ++
              "MOD for device bare in command: MOD r")) := by
    decide
  obtain ⟨index, command, key, atIndex, _, unknown, _, advised⟩ :=
    keyAdvice_of_encode_unsupported failed
  cases index with
  | zero =>
      cases atIndex
      exact ⟨failed, by decide, key, unknown, advised⟩
  | succ before =>
      cases atIndex

end Stateless

end Keystroke
