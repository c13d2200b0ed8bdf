import Keystroke.Proofs.Planned
import Keystroke.Proofs.Resolving

namespace Keystroke

/-!
# The commands that can be encoded

Whether a command can be encoded is a condition on its kind, its parameters,
the kind of the command before it and the kinds that have a symbol.  The
condition is stated here for every kind, and planning a command for a device
succeeds exactly if it holds.
-/

namespace Token

/-- A token that can be typed with symbols for the given kinds. -/
def Known
    (known : Kind → Prop) :
    Token → Prop
  | .modifier held => known (.key (.modifier held))
  | .named key => known (.key key)
  | .spelled _ => True

end Token

/-- A token can be typed if the key that it names can be. -/
theorem KeyName.known_ofToken
    {known : Kind → Prop}
    {token : String} :
    (KeyName.ofToken token).Known known ↔
      (Token.classify token).Known known := by
  unfold KeyName.ofToken
  cases Token.classify token <;> rfl

namespace Command

/-- The first parameter is a duration. -/
def HasDuration
    (parameters : List String) :
    Prop :=
  ∃ value number,
    parameters.head? = some value ∧ ReadsAsDuration value number

/-- The first two parameters are the bounds of a range of durations. -/
def HasRange
    (parameters : List String) :
    Prop :=
  ∃ first second others lower upper,
    parameters = first :: second :: others ∧
      ReadsAsDuration first lower ∧
      ReadsAsDuration second upper ∧
      lower ≤ upper

/-- The first parameter switches on or off. -/
def HasSwitch
    (parameters : List String) :
    Prop :=
  ∃ value,
    parameters.head? = some value ∧
      (Text.upper value = "ON" ∨ Text.upper value = "OFF")

/-- The first parameter is a number of repetitions. -/
def HasCount
    (parameters : List String) :
    Prop :=
  ∃ value count,
    parameters.head? = some value ∧
      Text.integer? (Text.trim value) = some count ∧
      1 ≤ count

/-- What a command has to be like to be encoded. -/
def Encodable
    (known : Kind → Prop)
    (previous? : Option Kind)
    (parameters : List String) :
    Kind → Prop
  | .delay | .defaultDelay =>
      HasDuration parameters
  | .randomDelay =>
      HasRange parameters
  | .text | .log | .validate | .branch | .loop | .attackMode =>
      parameters ≠ []
  | .safeMode =>
      HasSwitch parameters
  | .combination =>
      parameters ≠ [] ∧
        ∀ token ∈ parameters, (Token.classify token).Known known
  | .key key =>
      known (.key key)
  | .replay =>
      HasCount parameters ∧
        ∃ previous, previous? = some previous ∧ previous ≠ .replay
  | .pause | .comment | .remark | .otherwise | .endBranch | .endLoop
  | .custom _ =>
      True

section Planning

variable
  {pause : Text.Milliseconds}
  {command : Command}
  {plan : Plan KeyName}
  {known : Kind → Prop}

/-- Durations fit a word of 64 bits. -/
theorem ReadsAsDuration.toNat_lt
    {value : String}
    {number : Int}
    (reads : ReadsAsDuration value number) :
    number.toNat < UInt64.size := by
  have fits : Text.fitsWord number :=
    (Option.filter_eq_some_iff.mp reads.reads).2
  simp only [Text.fitsWord, Bool.and_eq_true, decide_eq_true_eq] at fits
  have bound : number < 0x8000000000000000 := fits.2
  change number.toNat < 0x10000000000000000
  omega

/-- Durations are ordered as words like the integers that are read. -/
theorem ReadsAsDuration.word_le_iff
    {first second : String}
    {lower upper : Int}
    (firstReads : ReadsAsDuration first lower)
    (secondReads : ReadsAsDuration second upper) :
    UInt64.ofNat lower.toNat ≤ UInt64.ofNat upper.toNat ↔ lower ≤ upper := by
  rw [UInt64.le_iff_toNat_le, UInt64.toNat_ofNat_of_lt' firstReads.toNat_lt,
    UInt64.toNat_ofNat_of_lt' secondReads.toNat_lt]
  have lowerNotNegative := firstReads.notNegative
  have upperNotNegative := secondReads.notNegative
  omega

/-- A command has a first parameter if it has parameters. -/
theorem exists_firstParameter_iff :
    (∃ value, command.firstParameter? = some value) ↔
      command.parameters ≠ [] := by
  unfold firstParameter?
  cases command.parameters with
  | nil =>
      simp
  | cons first rest =>
      simp

/-- A plan of remarks and of steps without keys uses no keys. -/
theorem usesOnly_of_no_keys
    (noKeys : plan.allSteps.all fun step => step.action.key?.isNone)
    (allowed : KeyName → Prop) :
    plan.UsesOnly allowed := by
  intro step member key isKey
  have none := List.all_eq_true.mp noKeys step member
  rw [Option.isNone_iff_eq_none] at none
  rw [none] at isKey
  cases isKey

/-- A plan in the list whose keys are known shows that a command is fit. -/
theorem Planned.encodable
    (planned : Planned pause command plan)
    (uses : plan.UsesOnly (KeyName.Known known))
    (previous? : Option Kind) :
    Encodable known previous? command.parameters command.kind := by
  cases planned with
  | key kind =>
      rw [kind]
      exact usesOnly_chord.mp uses _ List.mem_cons_self
  | combination kind notEmpty =>
      rw [kind]
      refine ⟨notEmpty, ?_⟩
      intro token member
      rw [← KeyName.known_ofToken]
      exact usesOnly_chord.mp uses _ (List.mem_map_of_mem member)
  | delay kind parameter reads =>
      rw [kind]
      exact ⟨_, _, parameter, reads⟩
  | defaultDelay kind parameter reads =>
      rw [kind]
      exact ⟨_, _, parameter, reads⟩
  | randomDelay kind parameters firstReads secondReads leastShape mostShape
      ordered =>
      rw [kind]
      subst leastShape mostShape
      exact ⟨_, _, _, _, _, parameters, firstReads, secondReads,
        (firstReads.word_le_iff secondReads).mp ordered⟩
  | safeModeOn kind parameter isOn =>
      rw [kind]
      exact ⟨_, parameter, .inl isOn⟩
  | safeModeOff kind parameter isOff =>
      rw [kind]
      exact ⟨_, parameter, .inr isOff⟩
  | comment kind =>
      rcases kind with isComment | isRemark
      · rw [isComment]
        trivial
      · rw [isRemark]
        trivial
  | pause kind | otherwise kind | endBranch kind | endLoop kind
  | custom kind =>
      rw [kind]
      trivial
  | text kind parameter | log kind parameter | validate kind parameter
  | branch kind parameter | loop kind parameter
  | attackModeKeyboard kind parameter | attackModeStorage kind parameter
  | attackModeOn kind parameter | attackModeOff kind parameter
  | attackModeOther kind parameter =>
      rw [kind]
      exact exists_firstParameter_iff.mp ⟨_, parameter⟩

/-- A command with a plan in the list that a device can carry out. -/
def Plannable
    (pause : Text.Milliseconds)
    (known : Kind → Prop)
    (command : Command) :
    Prop :=
  ∃ plan,
    Planned pause command plan ∧ plan.UsesOnly (KeyName.Known known)

/-- A plan in the list that uses no keys can always be carried out. -/
theorem Planned.plannable
    (planned : Planned pause command plan)
    (noKeys : plan.allSteps.all fun step => step.action.key?.isNone) :
    Plannable pause known command :=
  ⟨plan, planned, usesOnly_of_no_keys noKeys _⟩

/-- Every attack mode has a plan. -/
theorem plannable_attackMode
    (kind : command.kind = .attackMode)
    (notEmpty : command.parameters ≠ []) :
    Plannable pause known command := by
  obtain ⟨value, parameter⟩ := exists_firstParameter_iff.mpr notEmpty
  by_cases keyboard : Text.contains (Text.upper value) "HID"
  · exact (Planned.attackModeKeyboard kind parameter keyboard).plannable rfl
  by_cases storage : Text.contains (Text.upper value) "STORAGE"
  · exact (Planned.attackModeStorage kind parameter keyboard
      storage).plannable rfl
  by_cases isOn : Text.upper value = "ON"
  · exact (Planned.attackModeOn kind parameter isOn).plannable rfl
  by_cases isOff : Text.upper value = "OFF"
  · exact (Planned.attackModeOff kind parameter isOff).plannable rfl
  exact (Planned.attackModeOther kind parameter keyboard storage isOn
    isOff).plannable rfl

/-- A command that is fit and no repetition has a plan of its own. -/
theorem plannable_of_encodable
    {previous? : Option Kind}
    (notReplay : command.kind ≠ .replay)
    (encodable : Encodable known previous? command.parameters command.kind) :
    Plannable pause known command := by
  cases kind : command.kind with
  | key key =>
      rw [kind] at encodable
      refine ⟨_, .key kind, usesOnly_chord.mpr ?_⟩
      intro entry member
      rw [List.mem_singleton] at member
      rw [member]
      exact encodable
  | combination =>
      rw [kind] at encodable
      refine ⟨_, .combination kind encodable.1, usesOnly_chord.mpr ?_⟩
      intro entry member
      obtain ⟨token, tokenMember, shape⟩ := List.mem_map.mp member
      rw [← shape]
      exact KeyName.known_ofToken.mpr (encodable.2 token tokenMember)
  | delay =>
      rw [kind] at encodable
      obtain ⟨value, number, parameter, reads⟩ := encodable
      exact (Planned.delay kind parameter reads rfl).plannable rfl
  | defaultDelay =>
      rw [kind] at encodable
      obtain ⟨value, number, parameter, reads⟩ := encodable
      exact (Planned.defaultDelay kind parameter reads rfl).plannable rfl
  | randomDelay =>
      rw [kind] at encodable
      obtain ⟨first, second, others, lower, upper, parameters, firstReads,
        secondReads, ordered⟩ := encodable
      exact (Planned.randomDelay kind parameters firstReads secondReads rfl rfl
        ((firstReads.word_le_iff secondReads).mpr ordered)).plannable rfl
  | safeMode =>
      rw [kind] at encodable
      obtain ⟨value, parameter, isOn | isOff⟩ := encodable
      · exact (Planned.safeModeOn kind parameter isOn).plannable rfl
      · exact (Planned.safeModeOff kind parameter isOff).plannable rfl
  | attackMode =>
      rw [kind] at encodable
      exact plannable_attackMode kind encodable
  | text =>
      rw [kind] at encodable
      obtain ⟨value, parameter⟩ := exists_firstParameter_iff.mpr encodable
      exact (Planned.text kind parameter).plannable rfl
  | log =>
      rw [kind] at encodable
      obtain ⟨value, parameter⟩ := exists_firstParameter_iff.mpr encodable
      exact (Planned.log kind parameter).plannable rfl
  | validate =>
      rw [kind] at encodable
      obtain ⟨value, parameter⟩ := exists_firstParameter_iff.mpr encodable
      exact (Planned.validate kind parameter).plannable rfl
  | branch =>
      rw [kind] at encodable
      obtain ⟨value, parameter⟩ := exists_firstParameter_iff.mpr encodable
      exact (Planned.branch kind parameter).plannable rfl
  | loop =>
      rw [kind] at encodable
      obtain ⟨value, parameter⟩ := exists_firstParameter_iff.mpr encodable
      exact (Planned.loop kind parameter).plannable rfl
  | pause =>
      exact (Planned.pause kind).plannable rfl
  | comment =>
      exact (Planned.comment (.inl kind)).plannable rfl
  | remark =>
      exact (Planned.comment (.inr kind)).plannable rfl
  | otherwise =>
      exact (Planned.otherwise kind).plannable rfl
  | endBranch =>
      exact (Planned.endBranch kind).plannable rfl
  | endLoop =>
      exact (Planned.endLoop kind).plannable rfl
  | custom name =>
      exact (Planned.custom kind).plannable rfl
  | replay =>
      exact (notReplay kind).elim

end Planning

/-- Planning for a device succeeds if there is a plan with known keys. -/
theorem succeeds_planFor
    {device : Device}
    {pause : Text.Milliseconds}
    {previous? : Option Command}
    {command : Command} :
    Outcome.Succeeds (command.planFor device pause previous?) ↔
      ∃ plan,
        (Planned pause command plan ∨ Replayed pause previous? command plan) ∧
          plan.UsesOnly (KeyName.Known device.Knows) := by
  simp only [Outcome.Succeeds, planFor_eq_ok, plan_eq_ok]
  constructor
  · rintro ⟨resolved, named, planned, resolves⟩
    exact ⟨named, planned, succeeds_resolve_symbolFor.mp ⟨resolved, resolves⟩⟩
  · rintro ⟨named, planned, uses⟩
    obtain ⟨resolved, resolves⟩ := succeeds_resolve_symbolFor.mpr uses
    exact ⟨resolved, named, planned, resolves⟩

/-- A command is fit after the given one. -/
def EncodableAfter
    (known : Kind → Prop)
    (previous? : Option Command)
    (command : Command) :
    Prop :=
  Encodable known (previous?.map Command.kind) command.parameters command.kind

/--
One step of a run.  After a command that is fit, planning a command succeeds if
the command is fit.  A repetition needs the condition on the command before
it, which it plans again.
-/
theorem succeeds_planFor_iff_encodable
    {device : Device}
    {pause : Text.Milliseconds}
    {previous? : Option Command}
    (previousEncodable :
      ∀ previous ∈ previous?, ∃ before?,
        previous.EncodableAfter device.Knows before?)
    (command : Command) :
    Outcome.Succeeds (command.planFor device pause previous?) ↔
      command.EncodableAfter device.Knows previous? := by
  rw [succeeds_planFor]
  constructor
  · rintro ⟨plan, planned | replayed, uses⟩
    · exact planned.encodable uses _
    · cases replayed with
      | replay kind parameter reads atLeastOne isPrevious repeatedPlanned =>
          rw [EncodableAfter, kind, isPrevious]
          exact ⟨⟨_, _, parameter, reads, atLeastOne⟩, _, rfl,
            repeatedPlanned.kind_ne_replay⟩
  · intro encodable
    by_cases kind : command.kind = .replay
    · rw [EncodableAfter, kind] at encodable
      obtain ⟨⟨value, count, parameter, reads, atLeastOne⟩, previousKind,
        isPreviousKind, notReplay⟩ := encodable
      obtain ⟨previous, isPrevious, sameKind⟩ :=
        Option.map_eq_some_iff.mp isPreviousKind
      subst sameKind
      obtain ⟨before?, previousFit⟩ := previousEncodable previous isPrevious
      obtain ⟨repeated, repeatedPlanned, uses⟩ :=
        plannable_of_encodable notReplay previousFit
      exact ⟨_,
        .inr (.replay kind parameter reads atLeastOne isPrevious
          repeatedPlanned),
        usesOnly_loop uses _ _ _⟩
    · obtain ⟨plan, planned, uses⟩ := plannable_of_encodable kind encodable
      exact ⟨plan, .inl planned, uses⟩

/-- After a command that is fit, a repetition with a plan has its keys. -/
theorem Replayed.succeeds_planFor
    {device : Device}
    {pause : Text.Milliseconds}
    {previous? : Option Command}
    (previousEncodable :
      ∀ previous ∈ previous?, ∃ before?,
        previous.EncodableAfter device.Knows before?)
    {command : Command}
    {plan : Plan KeyName}
    (replayed : Replayed pause previous? command plan) :
    Outcome.Succeeds (command.planFor device pause previous?) := by
  rw [succeeds_planFor_iff_encodable previousEncodable]
  cases replayed with
  | replay kind parameter reads atLeastOne isPrevious repeatedPlanned =>
      rw [EncodableAfter, kind, isPrevious]
      exact ⟨⟨_, _, parameter, reads, atLeastOne⟩, _, rfl,
        repeatedPlanned.kind_ne_replay⟩

end Command

end Keystroke
