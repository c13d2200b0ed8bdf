import Keystroke.Proofs.EncodingFailure
import Keystroke.Proofs.KnownKeys
import Keystroke.Proofs.LineMatching
import Keystroke.Proofs.Numeral
import Keystroke.Script.Reading

namespace Keystroke

/-!
# Scripts that are read can be encoded, except for bad delays

Every rule of the grammar reads the parameters that encoding needs, and the
devices that are always known have a symbol for every key that a rule lets
through.  Only the value of a delay is read unexamined.  So a script that was
read fails to be encoded exactly if one of its delays has a value that is no
duration, and it fails with the fault of the first such delay.
-/

/-- A value of a delay: a numeral that is not negative and fits a signed word. -/
def Text.IsDuration
    (value : String) :
    Prop :=
  ∃ number,
    Numeral value.toList number ∧ 0 ≤ number ∧ number < wordBound

namespace Command

/-- A command that a rule of the grammar read from the text of the command. -/
structure WasRead
    (command : Command) :
    Prop where
  trimmed : Text.Trimmed command.rawText.toList
  accepted :
    ∃ rule : Grammar.Rule,
      rule.read? command.rawText = some ⟨command.kind, command.parameters⟩

/-- A delay whose only parameter is not a duration. -/
structure UnfitDelay
    (command : Command)
    (value : String) :
    Prop where
  kind : command.kind = .delay
  parameters : command.parameters = [value]
  unfit : ¬ Text.IsDuration value

/--
Why the value of a delay is refused.  A numeral that fits a signed word can only
be negative; every other value cannot be read.
-/
inductive DelayRefusal
    (value : String) :
    Cause → Prop where
  | negative
      {number : Int} :
      Text.Numeral value.toList number →
      -Text.wordBound ≤ number →
      number < 0 →
      DelayRefusal value (.negativeDuration .delay)
  | unreadable :
      (∀ number, Text.Numeral value.toList number →
        number < -Text.wordBound ∨ Text.wordBound ≤ number) →
      DelayRefusal value (.invalidDuration .delay value)

end Command

/-! ## Commands of a script that was read -/

namespace Script

/-- A line that is read becomes a command with the text of the line. -/
theorem wasRead_of_readLine
    {source text : String}
    {number : Nat}
    {command : Command}
    (trimmed : Text.Trimmed text.toList)
    (done : (readLine source number text).outcome = .ok command) :
    command.WasRead := by
  unfold readLine at done
  split at done
  · cases done
  · rename_i rule reading found
    cases done
    exact ⟨trimmed, rule, Grammar.read?_of_matchLine? found⟩

/-- Every line that is read becomes a command, and blank lines become none. -/
theorem wasRead_of_readLines
    {source : String}
    {number : Nat}
    {lines : List String}
    {commands : List Command}
    (done : (readLines source number lines).outcome = .ok commands) :
    ∀ command ∈ commands, command.WasRead := by
  induction lines generalizing number commands with
  | nil =>
      cases done
      simp
  | cons line rest inductionHypothesis =>
      simp only [readLines] at done
      split at done
      · exact inductionHypothesis done
      · simp only [Run.outcome_bind, Run.outcome_map, Outcome.bind_eq_ok,
          Outcome.map_eq_ok] at done
        obtain ⟨first, firstDone, others, othersDone, shape⟩ := done
        subst shape
        intro command member
        rcases List.mem_cons.mp member with isFirst | inOthers
        · rw [isFirst]
          exact wasRead_of_readLine (Text.trimmed_trim line) firstDone
        · exact inductionHypothesis othersDone command inOthers

/-- The commands of a script that was read were read from their own texts. -/
theorem wasRead_of_read
    {text source : String}
    {script : Script}
    (accepted : (read text source).outcome = .ok script) :
    ∀ command ∈ script.commands, command.WasRead := by
  simp only [read, Run.outcome_bind, Run.outcome_log, Run.outcome_pure,
    Outcome.bind_eq_ok] at accepted
  obtain ⟨commands, done, _, _, shape⟩ := accepted
  cases shape
  exact wasRead_of_readLines done

end Script

/-! ## What the rules read can be encoded -/

/-- A device that knows every key can type every token. -/
theorem Token.known_of_keys
    {known : Kind → Prop}
    (knowsKeys : ∀ key, known (.key key))
    (token : Token) :
    token.Known known := by
  cases token with
  | modifier held =>
      exact knowsKeys (.modifier held)
  | named key =>
      exact knowsKeys key
  | spelled token =>
      trivial

namespace Grammar

/-- The value of a delay on a trimmed line is trimmed. -/
theorem trim_of_argument?
    {keyword line value : String}
    (trimmed : Text.Trimmed line.toList)
    (found : argument? keyword line = some value) :
    Text.trim value = value := by
  obtain ⟨start, blanks, follows⟩ :=
    afterKeyword?_eq_some.mp (argument?_eq_some.mp found).1
  rw [follows.shape] at trimmed
  exact Text.trim_eq_self.mpr (trimmed.append_right follows.restStart)

/-- What a line of one word reads can be encoded. -/
theorem encodable_of_key?
    {known : Kind → Prop}
    (knowsKeys : ∀ key, known (.key key))
    {line : String}
    {reading : Reading}
    (found : key? line = some reading) :
    reading.kind ≠ .delay ∧
      ∀ previous?,
        Command.Encodable known previous? reading.parameters
          reading.kind := by
  obtain ⟨kind, isKind, rfl⟩ := Option.map_eq_some_iff.mp found
  unfold Kind.ofSingleWord? at isKind
  split at isKind
  · cases isKind
    exact ⟨by simp, fun _ => knowsKeys _⟩
  · split at isKind
    · cases isKind
      exact ⟨by simp, fun _ => trivial⟩
    · cases isKind

/--
A rule reads a delay with a trimmed value, or a command that can be encoded
wherever it stands on a device that knows every key.
-/
theorem delay_or_encodable_of_read?
    {known : Kind → Prop}
    (knowsKeys : ∀ key, known (.key key))
    {rule : Rule}
    {line : String}
    {reading : Reading}
    (trimmed : Text.Trimmed line.toList)
    (found : rule.read? line = some reading) :
    (∃ value, reading = ⟨.delay, [value]⟩ ∧ Text.trim value = value) ∨
      (reading.kind ≠ .delay ∧
        ∀ previous?,
          Command.Encodable known previous? reading.parameters
            reading.kind) := by
  cases rule with
  | delay =>
      obtain ⟨value, isArgument, rfl⟩ := Option.map_eq_some_iff.mp found
      exact .inl ⟨value, rfl, trim_of_argument? trimmed isArgument⟩
  | combination =>
      right
      simp only [Rule.read?, combination?] at found
      split at found
      · split at found
        · cases found
          refine ⟨by simp, fun _ => ⟨by simp, ?_⟩⟩
          intro token _
          exact Token.known_of_keys knowsKeys _
        · cases found
      · cases found
  | text | remark =>
      right
      obtain ⟨text, _, rfl⟩ := Option.map_eq_some_iff.mp found
      exact ⟨by simp, fun _ => by simp [Command.Encodable]⟩
  | key =>
      exact .inr (encodable_of_key? knowsKeys found)
  | safeMode =>
      right
      simp only [Rule.read?, safeMode?] at found
      split at found
      · cases found
      · split at found
        · rename_i switches
          cases found
          exact ⟨by simp, fun _ => ⟨_, rfl, switches⟩⟩
        · cases found
  | attackMode =>
      right
      simp only [Rule.read?, attackMode?] at found
      split at found
      · cases found
      · split at found
        · cases found
          exact ⟨by simp, fun _ => by simp [Command.Encodable]⟩
        · cases found
  | comment =>
      right
      simp only [Rule.read?, comment?] at found
      split at found
      · cases found
        exact ⟨by simp, fun _ => trivial⟩
      · cases found

end Grammar

/-! ## Delays that are refused -/

namespace Command

/-- A trimmed value is read as a duration if it is one. -/
theorem exists_readsAsDuration_iff
    {value : String}
    (trimmed : Text.trim value = value) :
    (∃ number, ReadsAsDuration value number) ↔ Text.IsDuration value := by
  constructor
  · rintro ⟨number, reads, notNegative⟩
    rw [trimmed] at reads
    obtain ⟨numeral, _, fits⟩ := Text.integer?_eq_some.mp reads
    exact ⟨number, numeral, notNegative, fits⟩
  · rintro ⟨number, numeral, notNegative, fits⟩
    refine ⟨number, ?_, notNegative⟩
    rw [trimmed]
    refine Text.integer?_eq_some.mpr ⟨numeral, ?_, fits⟩
    unfold Text.wordBound
    omega

/-- A command that was read can be encoded unless it is an unfit delay. -/
theorem WasRead.encodable_iff
    {command : Command}
    (wasRead : command.WasRead)
    {known : Kind → Prop}
    (knowsKeys : ∀ key, known (.key key))
    (previous? : Option Command) :
    command.EncodableAfter known previous? ↔
      ∀ value, ¬ command.UnfitDelay value := by
  obtain ⟨rule, found⟩ := wasRead.accepted
  rcases Grammar.delay_or_encodable_of_read? knowsKeys wasRead.trimmed found
    with ⟨value, shape, trimmed⟩ | ⟨notDelay, encodable⟩
  · obtain ⟨kind, parameters⟩ := Grammar.Reading.mk.inj shape
    rw [EncodableAfter, kind, parameters]
    constructor
    · rintro ⟨_, number, same, reads⟩ other ⟨_, otherParameters, unfit⟩
      cases same
      rw [parameters] at otherParameters
      cases otherParameters
      exact unfit ((exists_readsAsDuration_iff trimmed).mp ⟨number, reads⟩)
    · intro fit
      have isDuration : Text.IsDuration value := by
        by_contra unfit
        exact fit value ⟨kind, parameters, unfit⟩
      obtain ⟨number, reads⟩ :=
        (exists_readsAsDuration_iff trimmed).mpr isDuration
      exact ⟨value, number, rfl, reads⟩
  · constructor
    · intro _ value unfit
      exact notDelay unfit.kind
    · intro _
      exact encodable _

/-- The value of a delay that was read is trimmed. -/
theorem WasRead.trim_of_delay
    {command : Command}
    (wasRead : command.WasRead)
    {value : String}
    (kind : command.kind = .delay)
    (parameter : command.firstParameter? = some value) :
    Text.trim value = value := by
  obtain ⟨rule, found⟩ := wasRead.accepted
  rcases @Grammar.delay_or_encodable_of_read? (fun _ => True)
    (fun _ => trivial) _ _ _ wasRead.trimmed found
    with ⟨_, shape, trimmed⟩ | ⟨notDelay, _⟩
  · obtain ⟨_, parameters⟩ := Grammar.Reading.mk.inj shape
    rw [firstParameter?, parameters] at parameter
    cases parameter
    exact trimmed
  · exact absurd kind notDelay

/-- A trimmed value that is no duration is refused for a reason. -/
theorem exists_refusal_of_not_isDuration
    (command : Command)
    {value : String}
    (trimmed : Text.trim value = value)
    (unfit : ¬ Text.IsDuration value) :
    ∃ cause,
      DelayRefusal value cause ∧
        command.duration .delay (some value) =
          .error (command.fault cause) := by
  simp only [duration, Option.getD_some, trimmed]
  cases reading : Text.integer? value with
  | none =>
      refine ⟨_, .unreadable ?_, rfl⟩
      intro number numeral
      by_contra inRange
      have fits :
          -Text.wordBound ≤ number ∧ number < Text.wordBound := by
        omega
      rw [Text.integer?_eq_some.mpr ⟨numeral, fits⟩] at reading
      cases reading
  | some number =>
      obtain ⟨numeral, above, below⟩ := Text.integer?_eq_some.mp reading
      have negative : number < 0 := by
        by_contra notNegative
        exact unfit ⟨number, numeral, by omega, below⟩
      refine ⟨_, .negative numeral above negative, ?_⟩
      simp [negative]

/-- An unfit delay has no plan, for the reason that its value is refused. -/
theorem WasRead.exists_refusal
    {command : Command}
    (wasRead : command.WasRead)
    {value : String}
    (unfit : command.UnfitDelay value) :
    ∃ cause,
      DelayRefusal value cause ∧
        ∀ device pause previous?,
          command.planFor device pause previous? =
            .error (command.fault cause) := by
  have trimmed :=
    wasRead.trim_of_delay unfit.kind (congrArg List.head? unfit.parameters)
  obtain ⟨cause, refusal, refused⟩ :=
    command.exists_refusal_of_not_isDuration trimmed unfit.unfit
  refine ⟨cause, refusal, ?_⟩
  intro device pause previous?
  simp only [planFor, plan, directPlan, unfit.kind, delayPlan,
    firstParameter?, unfit.parameters, List.head?_cons, refused]
  rfl

end Command

namespace Script

section Accepted

variable
  {text source : String}
  {script : Script}
  {device : Device}

/-- In a script that was read all commands are fit but unfit delays. -/
theorem encodableAt_iff
    (accepted : (read text source).outcome = .ok script)
    (isBuiltin : device ∈ Registry.builtin.items)
    {index : Nat} :
    Stateless.EncodableAt device.Knows script.commands index ↔
      ∀ command ∈ script.commands[index]?,
        ∀ value, ¬ command.UnfitDelay value := by
  refine forall_congr' fun command => forall_congr' fun isCommand => ?_
  exact (wasRead_of_read accepted command
    (List.mem_of_getElem? isCommand)).encodable_iff
      (Registry.knows_of_mem_builtin isBuiltin) _

/-- Encoding a script that was read succeeds if it has no unfit delay. -/
theorem succeeds_encode_iff_no_unfitDelay
    (accepted : (read text source).outcome = .ok script)
    (isBuiltin : device ∈ Registry.builtin.items)
    (config : EncoderConfig) :
    Outcome.Succeeds (Encoder.encode config script device).outcome ↔
      ∀ command ∈ script.commands, ∀ value, ¬ command.UnfitDelay value := by
  rw [Stateless.succeeds_encode_iff]
  constructor
  · intro encodable command member
    obtain ⟨index, atIndex⟩ := List.mem_iff_getElem?.mp member
    exact (encodableAt_iff accepted isBuiltin).mp (encodable index)
      command atIndex
  · intro fit index
    refine (encodableAt_iff accepted isBuiltin).mpr ?_
    intro command isCommand
    exact fit command (List.mem_of_getElem? isCommand)

/-- The first unfit delay of a script that was read decides how it fails. -/
theorem encode_eq_error_of_first_unfitDelay
    (accepted : (read text source).outcome = .ok script)
    (isBuiltin : device ∈ Registry.builtin.items)
    (config : EncoderConfig)
    {earlier later : List Command}
    {command : Command}
    {value : String}
    (shape : script.commands = earlier ++ command :: later)
    (unfit : command.UnfitDelay value)
    (fitBefore :
      ∀ before ∈ earlier, ∀ other, ¬ before.UnfitDelay other) :
    ∃ cause,
      Command.DelayRefusal value cause ∧
        (Encoder.encode config script device).outcome =
          .error (.encode (command.fault cause).message) := by
  have wasRead : command.WasRead :=
    wasRead_of_read accepted command (by simp [shape])
  obtain ⟨cause, refusal, refused⟩ := wasRead.exists_refusal unfit
  refine ⟨cause, refusal, ?_⟩
  have failed :
      Stateless.blocks config device script.commands =
        .error (command.fault cause) := by
    rw [shape]
    apply Stateless.blocks_eq_error_of_first
    · intro before isBefore
      rw [← shape]
      refine (encodableAt_iff accepted isBuiltin).mpr ?_
      intro other isOther
      rw [shape, List.getElem?_append_left isBefore] at isOther
      exact fitBefore other (List.mem_of_getElem? isOther)
    · exact refused device config.pause earlier.getLast?
  rw [Stateless.encode_outcome, Stateless.program, failed]
  rfl

/--
A script that was read fails to be encoded for a device that is always known
exactly if the value of one of its delays is no duration, and then with the
fault of the first such delay.
-/
theorem encode_read_fails_iff_unfitDelay
    (accepted : (read text source).outcome = .ok script)
    (isBuiltin : device ∈ Registry.builtin.items)
    (config : EncoderConfig) :
    ((∃ failure,
        (Encoder.encode config script device).outcome = .error failure) ↔
        ∃ command ∈ script.commands, ∃ value, command.UnfitDelay value) ∧
      ∀ earlier command later value,
        script.commands = earlier ++ command :: later →
        command.UnfitDelay value →
        (∀ before ∈ earlier, ∀ other, ¬ before.UnfitDelay other) →
        ∃ cause,
          Command.DelayRefusal value cause ∧
            (Encoder.encode config script device).outcome =
              .error (.encode (command.fault cause).message) := by
  constructor
  · rw [← Outcome.not_succeeds,
      succeeds_encode_iff_no_unfitDelay accepted isBuiltin]
    simp only [not_forall, not_not, exists_prop]
  · intro earlier command later value shape unfit fitBefore
    exact encode_eq_error_of_first_unfitDelay accepted isBuiltin config
      shape unfit fitBefore

end Accepted

/-- A delay with a sign, a combination, and a delay that is negative. -/
def backwards :
    Script where
  commands :=
    [⟨.delay, 1, "DELAY +5", ["+5"]⟩,
      ⟨.combination, 3, "ctrl  Del", ["ctrl", "Del"]⟩,
      ⟨.delay, 4, "DELAY  -7", ["-7"]⟩]
  source := "keys.txt"
  totalLines := 4

/-- A delay may have a plus sign, and the negative delay after it is refused. -/
theorem encode_read_fails_iff_unfitDelay_backwards :
    (read "DELAY +5\n\nctrl  Del\nDELAY  -7" "keys.txt").outcome =
        .ok backwards ∧
      Device.standard "teensy_4" "Teensy 4.0" .arduino ∈
        Registry.builtin.items ∧
      ∃ cause,
        Command.DelayRefusal "-7" cause ∧
          (Encoder.encode {} backwards
              (.standard "teensy_4" "Teensy 4.0" .arduino)).outcome =
            .error (.encode (cause.message ++ ": " ++ "DELAY  -7")) := by
  have accepted :
      (read "DELAY +5\n\nctrl  Del\nDELAY  -7" "keys.txt").outcome =
        .ok backwards :=
    rfl
  have isBuiltin :
      Device.standard "teensy_4" "Teensy 4.0" .arduino ∈
        Registry.builtin.items :=
    List.mem_of_getElem? (i := 3) rfl
  refine ⟨accepted, isBuiltin, ?_⟩
  have unfit :
      Command.UnfitDelay ⟨.delay, 4, "DELAY  -7", ["-7"]⟩ "-7" := by
    refine ⟨rfl, rfl, ?_⟩
    rw [← Command.exists_readsAsDuration_iff rfl]
    rintro ⟨number, reads, notNegative⟩
    have isSeven : Text.integer? (Text.trim "-7") = some (-7) := by decide
    rw [isSeven] at reads
    cases reads
    exact absurd notNegative (by decide)
  refine (encode_read_fails_iff_unfitDelay accepted isBuiltin {}).2
    [⟨.delay, 1, "DELAY +5", ["+5"]⟩,
      ⟨.combination, 3, "ctrl  Del", ["ctrl", "Del"]⟩]
    ⟨.delay, 4, "DELAY  -7", ["-7"]⟩ [] "-7" rfl unfit ?_
  intro before member other otherUnfit
  rcases List.mem_cons.mp member with isDelay | inRest
  · subst isDelay
    cases otherUnfit.parameters
    have isFive : Text.integer? (Text.trim "+5") = some 5 := by decide
    refine otherUnfit.unfit ?_
    rw [← Command.exists_readsAsDuration_iff rfl]
    exact ⟨5, isFive, by decide⟩
  · rw [List.mem_singleton] at inRest
    subst inRest
    cases otherUnfit.kind

end Script

end Keystroke
