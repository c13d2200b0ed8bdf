import Keystroke.Proofs.HeldKeys
import Keystroke.Proofs.LetterCase
import Keystroke.Proofs.Numeral
import Keystroke.Proofs.ProgramLines

namespace Keystroke

/-!
# Commands in another spelling

Two commands are spelled alike if they are of one kind and their parameters
differ in the case of letters only.  Apart from the texts that are shown as they
are written, a parameter is only looked at in upper case, as a numeral, or as a
token whose symbol does not depend on the case.  So a program that is not verbose
has the same lines for both commands, or neither of them can be encoded.
-/

/-! ## Numerals and tokens in upper case -/

namespace Text

/-- The character is no ASCII letter. -/
def NoLetter
    (character : Char) :
    Prop :=
  ¬ (65 ≤ character.toNat ∧ character.toNat ≤ 90) ∧
    ¬ (97 ≤ character.toNat ∧ character.toNat ≤ 122)

/-- Whether characters without letters are accepted is the same in upper case. -/
theorem accepts_map_toUpper_iff
    {accepts : List Char → Prop}
    (noLetters :
      ∀ {characters}, accepts characters →
        ∀ character ∈ characters, NoLetter character)
    {characters : List Char} :
    accepts (characters.map Char.toUpper) ↔ accepts characters := by
  have unchanged
      (none :
        ∀ character ∈ characters, character.toUpper = character) :
      characters.map Char.toUpper = characters := by
    rw [List.map_congr_left none, List.map_id']
  constructor
  · intro accepted
    rw [← unchanged]
    · exact accepted
    · intro character member
      have isNoLetter :=
        noLetters accepted character.toUpper (List.mem_map_of_mem member)
      exact (eq_of_toUpper_eq isNoLetter.1 rfl).symm
  · intro accepted
    rw [unchanged]
    · exact accepted
    · intro character member
      exact toUpper_of_not_lower (noLetters accepted character member).2

/-- A digit is no letter. -/
theorem noLetter_of_isDigit
    {character : Char}
    (isDigit : character.isDigit) :
    NoLetter character := by
  have codes : 48 ≤ character.toNat ∧ character.toNat ≤ 57 :=
    Char.isDigit_iff_toNat.mp isDigit
  unfold NoLetter
  omega

/-- A numeral has no letters. -/
theorem Numeral.noLetter
    {characters : List Char}
    {value : Int}
    (numeral : Numeral characters value) :
    ∀ character ∈ characters, NoLetter character :=
  numeral.forall_mem ⟨by decide, by decide⟩ ⟨by decide, by decide⟩
    noLetter_of_isDigit

/-- An integer is read from the upper case of a text as from the text. -/
theorem integer?_upper
    (text : String) :
    integer? (upper text) = integer? text := by
  apply Option.ext
  intro value
  rw [integer?_eq_some, integer?_eq_some, toList_upper,
    accepts_map_toUpper_iff Numeral.noLetter]

/-- Texts with the same upper case are read as the same integer. -/
theorem integer?_trim_congr
    {first second : String}
    (same : upper first = upper second) :
    integer? (trim first) = integer? (trim second) := by
  rw [← integer?_upper, ← trim_upper, same, trim_upper, integer?_upper]

/-- Lower case forgets upper case. -/
theorem toLower_toUpper
    (character : Char) :
    character.toUpper.toLower = character.toLower := by
  by_cases lower : 97 ≤ character.toNat ∧ character.toNat ≤ 122
  · have upperCode := toNat_toUpper_of_lower lower
    have isUpper :
        65 ≤ character.toUpper.toNat ∧ character.toUpper.toNat ≤ 90 := by
      omega
    have lowerCode := toNat_toLower_of_upper isUpper
    have unchanged : character.toLower = character :=
      toLower_of_not_upper (by omega)
    rw [unchanged, ← Char.toNat_inj]
    omega
  · rw [toUpper_of_not_lower lower]

end Text

namespace Family

/-- Only a digit has the name of a digit. -/
theorem noLetter_of_digitName?
    {characters : List Char}
    {name : String}
    (isName : digitName? characters = some name) :
    ∀ character ∈ characters, Text.NoLetter character := by
  unfold digitName? at isName
  split at isName
  case h_11 =>
    cases isName
  all_goals
    intro character member
    rw [List.mem_singleton.mp member]
    exact Text.noLetter_of_isDigit rfl

/-- A token names a digit if its upper case does. -/
theorem digitName?_map_toUpper
    (characters : List Char) :
    digitName? (characters.map Char.toUpper) = digitName? characters := by
  apply Option.ext
  intro name
  exact Text.accepts_map_toUpper_iff noLetter_of_digitName?

/-- A token is spelled out as its upper case is. -/
theorem spell_upper
    (family : Family)
    (token : String) :
    family.spell (Text.upper token) = family.spell token := by
  cases family with
  | circuitPython =>
      simp only [spell, Text.toList_upper, digitName?_map_toUpper,
        Text.upper_upper]
  | arduino =>
      simp only [spell, Text.toList_upper, Text.upper_upper]
      cases token.toList with
      | nil =>
          rfl
      | cons first rest =>
          cases rest with
          | nil =>
              simp only [List.map_singleton, Text.isAlphanum_toUpper,
                Text.toLower_toUpper]
          | cons second more =>
              rfl

end Family

namespace KeyName

/-- The key with its spelling in upper case. -/
def upper :
    KeyName → KeyName
  | .known key => .known key
  | .spelled token => .spelled (Text.upper token)

/-- A token in upper case names the same key. -/
theorem ofToken_upper
    (token : String) :
    ofToken (Text.upper token) = (ofToken token).upper := by
  have sameAlias :
      Key.ofAlias? (Text.upper token) = Key.ofAlias? token := by
    simp only [Key.ofAlias?, Text.upper_upper]
  simp only [ofToken, Token.classify, Modifier.ofKeyword?_upper, sameAlias]
  cases Modifier.ofKeyword? token with
  | some held =>
      rfl
  | none =>
      cases Key.ofAlias? token <;> rfl

/-- A key is known if its upper case is. -/
theorem known_upper
    {known : Kind → Prop}
    {key : KeyName} :
    key.upper.Known known ↔ key.Known known := by
  cases key <;> rfl

/-- A device has one symbol for all spellings of a key. -/
theorem symbol_upper
    (device : Device)
    (key : KeyName) :
    device.symbol key.upper = device.symbol key := by
  cases key with
  | known key =>
      rfl
  | spelled token =>
      exact device.family.spell_upper token

end KeyName

/-- The kinds whose plan does not show how a command is spelled. -/
def Kind.ignoresCase :
    Kind → Bool
  | .key _ | .pause | .delay | .safeMode | .attackMode => true
  | _ => false

namespace Command

/-- Two commands of one kind, whose parameters differ in case only. -/
structure SpelledAlike
    (first second : Command) :
    Prop where
  kind : second.kind = first.kind
  parameters :
    second.parameters.map Text.upper = first.parameters.map Text.upper

namespace SpelledAlike

variable
  {first second : Command}
  (alike : SpelledAlike first second)

include alike

/-- Which of the spellings comes first does not matter. -/
theorem symm :
    SpelledAlike second first :=
  ⟨alike.kind.symm, alike.parameters.symm⟩

/-- The first parameters have the same upper case. -/
theorem exists_firstParameter
    {value : String}
    (parameter : first.firstParameter? = some value) :
    ∃ other,
      second.firstParameter? = some other ∧
        Text.upper other = Text.upper value := by
  have sameHeads := congrArg List.head? alike.parameters
  rw [List.head?_map, List.head?_map, ← firstParameter?, ← firstParameter?,
    parameter, Option.map_some, Option.map_eq_some_iff] at sameHeads
  exact sameHeads

/-- The keys of the tokens are the same in upper case. -/
theorem tokens_symbols
    (device : Device) :
    (second.parameters.map fun token => device.symbol (.ofToken token)) =
      first.parameters.map fun token => device.symbol (.ofToken token) := by
  have inUpper
      (tokens : List String) :
      (tokens.map fun token => device.symbol (.ofToken token)) =
        (tokens.map Text.upper).map fun token =>
          device.symbol (.ofToken token) := by
    rw [List.map_map]
    apply List.map_congr_left
    intro token _
    rw [Function.comp_apply, KeyName.ofToken_upper, KeyName.symbol_upper]
  rw [inUpper second.parameters, alike.parameters, ← inUpper]

/-- A device that knows the tokens of one spelling knows those of the other. -/
theorem tokens_known
    {known : Kind → Prop}
    (areKnown :
      ∀ token ∈ first.parameters, (KeyName.ofToken token).Known known) :
    ∀ token ∈ second.parameters, (KeyName.ofToken token).Known known := by
  have inUpper
      (token : String) :
      (KeyName.ofToken (Text.upper token)).Known known ↔
        (KeyName.ofToken token).Known known := by
    rw [KeyName.ofToken_upper, KeyName.known_upper]
  intro token member
  have upperMember : Text.upper token ∈ first.parameters.map Text.upper := by
    rw [← alike.parameters]
    exact List.mem_map_of_mem member
  obtain ⟨other, otherMember, sameUpper⟩ := List.mem_map.mp upperMember
  rw [← inUpper token, ← sameUpper, inUpper other]
  exact areKnown other otherMember

end SpelledAlike

/-- A duration is read from any spelling of its value. -/
theorem ReadsAsDuration.of_upper
    {value other : String}
    {number : Int}
    (reads : ReadsAsDuration value number)
    (same : Text.upper other = Text.upper value) :
    ReadsAsDuration other number := by
  refine ⟨?_, reads.notNegative⟩
  rw [Text.integer?_trim_congr same]
  exact reads.reads

/-! ## The plans of two spellings -/

/-- A plan that does not show a spelling is the plan of the other one. -/
theorem Planned.of_spelledAlike
    {pause : Text.Milliseconds}
    {first second : Command}
    {plan : Plan KeyName}
    (planned : Planned pause first plan)
    (alike : SpelledAlike first second)
    (ignores : first.kind.ignoresCase) :
    Planned pause second plan := by
  have sameKind := alike.kind
  cases planned with
  | key kind =>
      exact .key (sameKind.trans kind)
  | pause kind =>
      exact .pause (sameKind.trans kind)
  | delay kind parameter reads timeShape =>
      obtain ⟨other, otherParameter, same⟩ :=
        alike.exists_firstParameter parameter
      exact .delay (sameKind.trans kind) otherParameter
        (reads.of_upper same) timeShape
  | safeModeOn kind parameter isOn =>
      obtain ⟨other, otherParameter, same⟩ :=
        alike.exists_firstParameter parameter
      exact .safeModeOn (sameKind.trans kind) otherParameter
        (same.trans isOn)
  | safeModeOff kind parameter isOff =>
      obtain ⟨other, otherParameter, same⟩ :=
        alike.exists_firstParameter parameter
      exact .safeModeOff (sameKind.trans kind) otherParameter
        (same.trans isOff)
  | attackModeOn kind parameter isOn =>
      obtain ⟨other, otherParameter, same⟩ :=
        alike.exists_firstParameter parameter
      exact .attackModeOn (sameKind.trans kind) otherParameter
        (same.trans isOn)
  | attackModeOff kind parameter isOff =>
      obtain ⟨other, otherParameter, same⟩ :=
        alike.exists_firstParameter parameter
      exact .attackModeOff (sameKind.trans kind) otherParameter
        (same.trans isOff)
  | attackModeKeyboard kind parameter keyboard =>
      obtain ⟨other, otherParameter, same⟩ :=
        alike.exists_firstParameter parameter
      rw [← same] at keyboard ⊢
      exact .attackModeKeyboard (sameKind.trans kind) otherParameter keyboard
  | attackModeStorage kind parameter noKeyboard storage =>
      obtain ⟨other, otherParameter, same⟩ :=
        alike.exists_firstParameter parameter
      rw [← same] at noKeyboard storage ⊢
      exact .attackModeStorage (sameKind.trans kind) otherParameter
        noKeyboard storage
  | attackModeOther kind parameter noKeyboard noStorage notOn notOff =>
      obtain ⟨other, otherParameter, same⟩ :=
        alike.exists_firstParameter parameter
      rw [← same] at noKeyboard noStorage notOn notOff ⊢
      exact .attackModeOther (sameKind.trans kind) otherParameter
        noKeyboard noStorage notOn notOff
  | comment kind =>
      rcases kind with kind | kind <;> simp [kind, Kind.ignoresCase] at ignores
  | text kind | combination kind | defaultDelay kind | randomDelay kind
  | log kind | validate kind | branch kind | otherwise kind | endBranch kind
  | loop kind | endLoop kind | custom kind =>
      simp [kind, Kind.ignoresCase] at ignores

/-- The lines of a chord without notes: presses, and releases in reverse. -/
def chordLines
    (family : Family)
    (symbols : List String) :
    List CodeLine :=
  (symbols.flatMap fun symbol => family.actionLines (.press symbol)) ++
    symbols.reverse.flatMap fun symbol =>
      family.actionLines (.release symbol)

/-- Without notes a chord shows nothing but the symbols of its keys. -/
theorem lines_chord_quiet
    (family : Family)
    (symbol : KeyName → String)
    (keys : List (KeyName × String)) :
    ((Plan.ofSteps (chord keys)).mapKey symbol).lines family false =
      chordLines family (keys.map fun entry => symbol entry.1) := by
  rw [chordLines, Plan.mapKey_ofSteps, Plan.lines_ofSteps, chord,
    List.map_append, List.flatMap_append, List.map_map, List.map_map,
    ← List.map_reverse, List.flatMap_map, List.flatMap_map,
    List.flatMap_map, List.flatMap_map]
  rfl

/-- A combination has a plan if its tokens are known, and it is a chord. -/
theorem planFor_combination
    {device : Device}
    {pause : Text.Milliseconds}
    {previous? : Option Command}
    {command : Command}
    (kind : command.kind = .combination)
    {plan : Plan String} :
    command.planFor device pause previous? = .ok plan ↔
      command.parameters ≠ [] ∧
        (∀ token ∈ command.parameters,
          (KeyName.ofToken token).Known device.Knows) ∧
        plan =
          (Plan.ofSteps
            (chord (command.parameters.map fun token =>
              (KeyName.ofToken token, token)))).mapKey device.symbol := by
  have condition :
      Outcome.Succeeds (command.planFor device pause previous?) ↔
        command.parameters ≠ [] ∧
          ∀ token ∈ command.parameters,
            (KeyName.ofToken token).Known device.Knows := by
    rw [succeeds_planFor]
    constructor
    · rintro ⟨named, direct | replayed, uses⟩
      · have fit := direct.encodable uses none
        rw [kind] at fit
        exact ⟨fit.1, fun token member =>
          KeyName.known_ofToken.mpr (fit.2 token member)⟩
      · cases replayed with
        | replay isReplay =>
            rw [kind] at isReplay
            cases isReplay
    · rintro ⟨some, known⟩
      refine ⟨_, .inl (.combination kind some), usesOnly_chord.mpr ?_⟩
      rw [List.forall_mem_map]
      exact known
  have isChord
      {found : Plan String}
      (planned : command.planFor device pause previous? = .ok found) :
      found =
        (Plan.ofSteps
          (chord (command.parameters.map fun token =>
            (KeyName.ofToken token, token)))).mapKey device.symbol := by
    obtain ⟨named, namedPlan, rfl⟩ := exists_plan_of_planFor planned
    rw [eq_chord_of_combination kind namedPlan]
  constructor
  · intro planned
    obtain ⟨some, known⟩ := condition.mp ⟨plan, planned⟩
    exact ⟨some, known, isChord planned⟩
  · rintro ⟨some, known, rfl⟩
    obtain ⟨found, planned⟩ := condition.mpr ⟨some, known⟩
    rw [planned, isChord planned]

/-- What a plan shows in a program that is not verbose, and what it changes. -/
structure QuietlyAlike
    (device : Device)
    (plan other : Plan String) :
    Prop where
  lines :
    plan.lines device.family false = other.lines device.family false
  change : plan.change = other.change

/-- A command in another spelling has a plan that quietly does the same. -/
theorem SpelledAlike.exists_planFor
    {first second : Command}
    (alike : SpelledAlike first second)
    (ignores : first.kind = .combination ∨ first.kind.ignoresCase)
    {device : Device}
    {pause : Text.Milliseconds}
    {previous? : Option Command}
    {plan : Plan String}
    (planned : first.planFor device pause previous? = .ok plan) :
    ∃ other,
      second.planFor device pause previous? = .ok other ∧
        QuietlyAlike device plan other := by
  rcases ignores with combined | ignores
  · obtain ⟨some, known, rfl⟩ := (planFor_combination combined).mp planned
    have otherSome : second.parameters ≠ [] := by
      intro none
      have sameParameters := alike.parameters
      rw [none, List.map_nil, eq_comm, List.map_eq_nil_iff] at sameParameters
      exact some sameParameters
    refine ⟨_, (planFor_combination (alike.kind.trans combined)).mpr
      ⟨otherSome, alike.tokens_known known, rfl⟩, ?_, rfl⟩
    rw [lines_chord_quiet, lines_chord_quiet, List.map_map, List.map_map]
    exact congrArg (chordLines device.family)
      (alike.tokens_symbols device).symm
  · obtain ⟨named, namedPlan, resolves⟩ := planFor_eq_ok.mp planned
    have direct : Planned pause first named := by
      rcases plan_eq_ok.mp namedPlan with direct | replayed
      · exact direct
      · cases replayed with
        | replay kind =>
            rw [kind] at ignores
            cases ignores
    have otherPlan : second.plan pause previous? = .ok named :=
      plan_eq_ok.mpr (.inl (direct.of_spelledAlike alike ignores))
    refine ⟨plan, ?_, rfl, rfl⟩
    exact planFor_eq_ok.mpr
      ⟨named, otherPlan, resolve_symbolFor_congr second resolves⟩

/--
What encoding two commands in one context comes to: both are refused, or both
have the same lines and leave the same settings.
-/
inductive EncodedAlike
    (device : Device)
    (context : Context) :
    Except EncodeFault (Plan String) →
      Except EncodeFault (Plan String) → Prop where
  | refused
      {fault otherFault : EncodeFault} :
      EncodedAlike device context (.error fault) (.error otherFault)
  | encoded
      {plan other : Plan String} :
      plan.lines device.family context.safeMode =
        other.lines device.family context.safeMode →
      (context.apply plan.change).safeMode =
        (context.apply other.change).safeMode →
      (context.apply plan.change).defaultDelay =
        (context.apply other.change).defaultDelay →
      EncodedAlike device context (.ok plan) (.ok other)

/-- Two spellings of a command are encoded alike in a quiet program. -/
theorem SpelledAlike.encodedAlike
    {first second : Command}
    (alike : SpelledAlike first second)
    (ignores : first.kind = .combination ∨ first.kind.ignoresCase)
    (device : Device)
    (pause : Text.Milliseconds)
    {context : Context}
    (quiet : context.safeMode = false) :
    EncodedAlike device context
      (first.planFor device pause context.previous?)
      (second.planFor device pause context.previous?) := by
  cases planned : first.planFor device pause context.previous? with
  | ok plan =>
      obtain ⟨other, otherPlanned, quietly⟩ :=
        alike.exists_planFor ignores planned
      rw [otherPlanned]
      refine .encoded ?_ ?_ ?_
      · rw [quiet]
        exact quietly.lines
      · rw [quietly.change]
      · rw [quietly.change]
  | error fault =>
      cases otherPlanned :
          second.planFor device pause context.previous? with
      | ok other =>
          rw [← alike.kind] at ignores
          obtain ⟨plan, isPlanned, _⟩ :=
            alike.symm.exists_planFor ignores otherPlanned
          rw [planned] at isPlanned
          cases isPlanned
      | error otherFault =>
          exact .refused

end Command

namespace Grammar

/-- What is read from a line shows no case, unless it is shown as written. -/
theorem ignoresCase_of_read?
    {rule : Rule}
    {line : String}
    {reading : Reading}
    (found : rule.read? line = some reading)
    (notShown : reading.kind ∉ [.text, .comment, .remark]) :
    reading.kind = .combination ∨ reading.kind.ignoresCase := by
  have readable := (takenFrom_of_read? found).kind
  cases kind : reading.kind with
  | combination =>
      exact .inl rfl
  | key pressed | pause | delay | safeMode | attackMode =>
      exact .inr rfl
  | text | comment | remark =>
      exact absurd (by simp [kind]) notShown
  | _ =>
      rw [kind] at readable
      cases readable

/--
Keywords may be written in any case.  A line in upper case is matched by the
rule that matches the line, with the same kind and with the parameters in upper
case.  Unless the line is shown as it is written, both commands are encoded alike
on every device while the program is not verbose.
-/
theorem matchLine?_ignores_case
    (line : String) :
    (matchLine? (Text.upper line) =
        (matchLine? line).map fun (rule, reading) =>
          (rule, reading.upper)) ∧
      ∀ rule reading,
        matchLine? line = some (rule, reading) →
        reading.kind ∉ [.text, .comment, .remark] →
        ∀ (first second : Command),
          first.reading = reading →
          second.reading = reading.upper →
          ∀ (device : Device) (pause : Text.Milliseconds)
            (context : Context),
            context.safeMode = false →
            Command.EncodedAlike device context
              (first.planFor device pause context.previous?)
              (second.planFor device pause context.previous?) := by
  refine ⟨matchLine?_upper line, ?_⟩
  intro rule reading found notShown first second firstRead secondRead device
    pause context quiet
  subst firstRead
  have alike : first.SpelledAlike second := by
    obtain ⟨kind, parameters⟩ := Reading.mk.inj secondRead
    refine ⟨kind, ?_⟩
    rw [parameters, List.map_map]
    apply List.map_congr_left
    intro parameter _
    exact Text.upper_upper parameter
  exact alike.encodedAlike
    (ignoresCase_of_read? (read?_of_matchLine? found) notShown) device pause
    quiet

/-- A letter of a combination is pressed by one symbol in both cases. -/
theorem matchLine?_ignores_case_combination :
    matchLine? "Ctrl  x" =
        some (.combination, ⟨.combination, ["Ctrl", "x"]⟩) ∧
      matchLine? (Text.upper "Ctrl  x") =
        some (.combination, ⟨.combination, ["CTRL", "X"]⟩) ∧
      Command.EncodedAlike (.standard "teensy_4" "Teensy 4.0" .arduino)
        (.initial false)
        (Command.planFor (.standard "teensy_4" "Teensy 4.0" .arduino) 5000
          none ⟨.combination, 1, "Ctrl  x", ["Ctrl", "x"]⟩)
        (Command.planFor (.standard "teensy_4" "Teensy 4.0" .arduino) 5000
          none ⟨.combination, 1, "CTRL  X", ["CTRL", "X"]⟩) := by
  have found :
      matchLine? "Ctrl  x" =
        some (.combination, ⟨.combination, ["Ctrl", "x"]⟩) := by
    decide
  obtain ⟨inUpper, encodedAlike⟩ := matchLine?_ignores_case "Ctrl  x"
  refine ⟨found, ?_, ?_⟩
  · rw [inUpper, found]
    decide
  · exact encodedAlike .combination _ found (by decide)
      ⟨.combination, 1, "Ctrl  x", ["Ctrl", "x"]⟩
      ⟨.combination, 1, "CTRL  X", ["CTRL", "X"]⟩ rfl (by decide) _ 5000
      (.initial false) rfl

end Grammar

end Keystroke
