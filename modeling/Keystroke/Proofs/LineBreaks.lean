import Keystroke.Proofs.Performance

namespace Keystroke

/-!
# Where a line break could come from

A plan is made of fixed texts and numerals, of the texts of its command and of
the symbols of a device.  The fixed texts hold no control character of ASCII,
and nothing that is done to the other texts adds one.  So a line feed, or any
other control character, is in a plan only if it is in a text of the command, in
one of the command before it or in a symbol of the device.
-/

/-! ## Texts without a character -/

namespace Text

/-- The character does not occur in the text. -/
def Lacks
    (sign : Char)
    (text : String) :
    Prop :=
  sign ∉ text.toList

section Lacks

variable
  {sign : Char}

/-- A text lacks what both of its parts lack. -/
theorem lacks_append
    {first second : String} :
    Lacks sign (first ++ second) ↔ Lacks sign first ∧ Lacks sign second := by
  simp [Lacks]

/-- A text lacks what another one with more characters lacks. -/
theorem Lacks.of_subset
    {text other : String}
    (lacks : Lacks sign other)
    (subset : text.toList ⊆ other.toList) :
    Lacks sign text :=
  fun member => lacks (subset member)

/-- Trimming the end adds nothing. -/
theorem Lacks.trimEnd
    {text : String}
    (lacks : Lacks sign text) :
    Lacks sign (trimEnd text) := by
  refine lacks.of_subset ?_
  intro character member
  rw [Text.trimEnd, String.toList_ofList, List.mem_reverse] at member
  exact List.mem_reverse.mp ((List.dropWhile_sublist isSpace).mem member)

/-- Trimming adds nothing. -/
theorem Lacks.trim
    {text : String}
    (lacks : Lacks sign text) :
    Lacks sign (trim text) := by
  refine Lacks.trimEnd (lacks.of_subset ?_)
  intro character member
  rw [trimStart, String.toList_ofList] at member
  exact (List.dropWhile_sublist isSpace).mem member

variable
  (control : sign.toNat < 32)

include control

/-- Characters from the space on are no control characters of ASCII. -/
theorem lacks_ofList
    {characters : List Char}
    (printed : characters.all fun character => 32 ≤ character.toNat) :
    Lacks sign (String.ofList characters) := by
  intro member
  rw [String.toList_ofList] at member
  have isPrinted := of_decide_eq_true (List.all_eq_true.mp printed sign member)
  omega

/-- A numeral is written with digits. -/
theorem lacks_repr
    (number : Nat) :
    Lacks sign number.repr := by
  intro member
  rw [Nat.toList_repr] at member
  have isDigit := Nat.isDigit_of_mem_toDigits (by decide) (by decide) member
  rw [Char.isDigit, Bool.and_eq_true, decide_eq_true_eq,
    decide_eq_true_eq, ge_iff_le, UInt32.le_iff_toNat_le] at isDigit
  have above : 48 ≤ sign.toNat := isDigit.1
  omega

/-- The numeral of a word is written with digits. -/
theorem lacks_wordNumeral
    (value : UInt64) :
    Lacks sign (wordNumeral value) :=
  lacks_repr control value.toNat

/-- An integer is written with digits and perhaps a sign. -/
theorem lacks_intRepr
    (number : Int) :
    Lacks sign number.repr := by
  cases number with
  | ofNat value =>
      exact lacks_repr control value
  | negSucc value =>
      exact lacks_append.mpr
        ⟨lacks_ofList control rfl, lacks_repr control (value + 1)⟩

/-- Seconds are written with digits and a point. -/
theorem lacks_seconds
    (duration : Milliseconds) :
    Lacks sign (seconds duration) := by
  have printed : ∀ digit < 10, 32 ≤ (Nat.digitChar digit).toNat := by
    decide
  have fraction
      {value : Nat}
      (small : value < 1000) :
      (fractionDigits value).all fun character => 32 ≤ character.toNat := by
    unfold fractionDigits
    split
    · rfl
    · rw [List.all_eq_true]
      intro character member
      have isDigit : character ∈ thousandths value :=
        List.mem_reverse.mp
          ((List.dropWhile_sublist _).mem (List.mem_reverse.mp member))
      simp only [thousandths, List.mem_cons, List.not_mem_nil,
        or_false] at isDigit
      rcases isDigit with rfl | rfl | rfl <;>
        exact decide_eq_true (printed _ (by omega))
  refine lacks_append.mpr ⟨lacks_append.mpr ⟨lacks_repr control _, ?_⟩, ?_⟩
  · exact lacks_ofList control rfl
  · exact lacks_ofList control (fraction (Nat.mod_lt _ (by decide)))

/-- No other character has a control character as its upper case. -/
theorem eq_of_toUpper
    {character : Char}
    (same : character.toUpper = sign) :
    character = sign := by
  by_cases lower : 97 ≤ character.toNat ∧ character.toNat ≤ 122
  · have shifted := toNat_toUpper_of_lower lower
    rw [same] at shifted
    omega
  · rwa [toUpper_of_not_lower lower] at same

/-- No other character has a control character as its lower case. -/
theorem eq_of_toLower
    {character : Char}
    (same : character.toLower = sign) :
    character = sign := by
  by_cases upper : 65 ≤ character.toNat ∧ character.toNat ≤ 90
  · have shifted := toNat_toLower_of_upper upper
    rw [same] at shifted
    omega
  · rwa [toLower_of_not_upper upper] at same

/-- Upper case adds nothing. -/
theorem Lacks.upper
    {text : String}
    (lacks : Lacks sign text) :
    Lacks sign (upper text) := by
  intro member
  rw [toList_upper] at member
  obtain ⟨character, inText, same⟩ := List.mem_map.mp member
  rw [eq_of_toUpper control same] at inText
  exact lacks inText

/-- A literal adds quotes and backslashes. -/
theorem Lacks.literal
    {text : String}
    (lacks : Lacks sign text) :
    Lacks sign (literal text) := by
  refine lacks_append.mpr ⟨lacks_append.mpr ⟨?_, ?_⟩, ?_⟩
  · exact lacks_ofList control rfl
  · intro member
    rw [escape, String.toList_ofList] at member
    obtain ⟨character, inText, escaped⟩ := List.mem_flatMap.mp member
    have isCharacter : sign = character := by
      unfold escapeCharacter at escaped
      split at escaped
      · rcases List.mem_cons.mp escaped with isBackslash | isLast
        · rw [isBackslash] at control
          exact absurd control (by decide)
        · exact List.mem_singleton.mp isLast
      · exact List.mem_singleton.mp escaped
    rw [← isCharacter] at inText
    exact lacks inText
  · exact lacks_ofList control rfl

end Lacks

end Text

/-! ## The texts of commands, devices and plans -/

/-- The character is in no text of the command. -/
structure Command.Lacks
    (sign : Char)
    (command : Command) :
    Prop where
  rawText : Text.Lacks sign command.rawText
  parameters : ∀ parameter ∈ command.parameters, Text.Lacks sign parameter
  name : ∀ name, command.kind = .custom name → Text.Lacks sign name

/-- The character is in no symbol of the vocabulary. -/
def Vocabulary.Lacks
    (sign : Char)
    (vocabulary : Vocabulary) :
    Prop :=
  ∀ item ∈ vocabulary.items, Text.Lacks sign item.2

/-- The character is in no text of the action. -/
def Action.Lacks
    (sign : Char) :
    Action String → Prop
  | .typeText text => Text.Lacks sign text
  | .press symbol => Text.Lacks sign symbol
  | .release symbol => Text.Lacks sign symbol
  | .print text => Text.Lacks sign text
  | .branchAlways condition => Text.Lacks sign condition
  | .loopOnce condition => Text.Lacks sign condition
  | _ => True

/-- The character is neither in the action nor in the note of the step. -/
def Step.Lacks
    (sign : Char)
    (step : Step String) :
    Prop :=
  step.action.Lacks sign ∧ ∀ note ∈ step.note?, Text.Lacks sign note

/-- The character is in no text of the entry. -/
def Entry.Lacks
    (sign : Char) :
    Entry String → Prop
  | .remark text => Text.Lacks sign text
  | .aside text => Text.Lacks sign text
  | .perform step => step.Lacks sign
  | .loop _ steps => ∀ step ∈ steps, step.Lacks sign

/-- The character is in no text of the plan. -/
def Plan.Lacks
    (sign : Char)
    (plan : Plan String) :
    Prop :=
  ∀ entry ∈ plan.entries, entry.Lacks sign

section Constructors

variable
  {sign : Char}
  {symbol : KeyName → String}

/-- A plan lacks what its entries lack. -/
theorem Plan.lacks_mapKey
    {plan : Plan KeyName} :
    (plan.mapKey symbol).Lacks sign ↔
      ∀ entry ∈ plan.entries, (entry.mapKey symbol).Lacks sign :=
  List.forall_mem_map

@[simp] theorem Entry.lacks_remark
    (text : String) :
    ((remark text).mapKey symbol).Lacks sign ↔ Text.Lacks sign text :=
  Iff.rfl

@[simp] theorem Entry.lacks_aside
    (text : String) :
    ((aside text).mapKey symbol).Lacks sign ↔ Text.Lacks sign text :=
  Iff.rfl

@[simp] theorem Entry.lacks_perform_plain
    (action : Action KeyName) :
    ((perform (.plain action)).mapKey symbol).Lacks sign ↔
      (action.mapKey symbol).Lacks sign := by
  simp [Entry.mapKey, Entry.Lacks, Step.Lacks, Step.mapKey, Step.plain]

@[simp] theorem Entry.lacks_perform_noted
    (action : Action KeyName)
    (note : String) :
    ((perform (.noted action note)).mapKey symbol).Lacks sign ↔
      (action.mapKey symbol).Lacks sign ∧ Text.Lacks sign note := by
  simp [Entry.mapKey, Entry.Lacks, Step.Lacks, Step.mapKey, Step.noted]

end Constructors

section Planning

variable
  {sign : Char}
  (control : sign.toNat < 32)

include control

/-- The keywords of keys are printed. -/
theorem Key.lacks_keyword
    (key : Key) :
    Text.Lacks sign key.keyword := by
  cases key with
  | function index =>
      exact Text.lacks_append.mpr
        ⟨Text.lacks_ofList control rfl, Text.lacks_repr control _⟩
  | modifier held =>
      cases held <;> exact Text.lacks_ofList control rfl
  | _ =>
      exact Text.lacks_ofList control rfl

/-- Spelling a token out adds nothing. -/
theorem Family.lacks_spell
    (family : Family)
    {token : String}
    (lacks : Text.Lacks sign token) :
    Text.Lacks sign (family.spell token) := by
  have upperCase := lacks.upper control
  cases family with
  | circuitPython =>
      refine Text.lacks_append.mpr ⟨Text.lacks_ofList control rfl, ?_⟩
      unfold digitName?
      split
      all_goals first
        | exact Text.lacks_ofList control rfl
        | exact upperCase
  | arduino =>
      have named : Text.Lacks sign ("KEY_" ++ Text.upper token) :=
        Text.lacks_append.mpr ⟨Text.lacks_ofList control rfl, upperCase⟩
      simp only [spell]
      split
      · rename_i character isCharacter
        split
        · refine Text.lacks_append.mpr ⟨Text.lacks_append.mpr ⟨?_, ?_⟩, ?_⟩
          · exact Text.lacks_ofList control rfl
          · intro member
            have lowered : sign = character.toLower := by
              simpa using member
            refine lacks ?_
            rw [isCharacter, Text.eq_of_toLower control lowered.symm]
            exact List.mem_cons_self
          · exact Text.lacks_ofList control rfl
        · exact named
      · exact named

/-- The symbol of a key lacks what the vocabulary lacks. -/
theorem Device.lacks_symbol_known
    {device : Device}
    (symbols : device.vocabulary.Lacks sign)
    (key : Key) :
    Text.Lacks sign (device.symbol (.known key)) := by
  simp only [symbol]
  cases found : device.vocabulary.symbol? (.key key) with
  | none =>
      exact Text.lacks_ofList control rfl
  | some symbol =>
      obtain ⟨item, isItem, rfl⟩ := Option.map_eq_some_iff.mp found
      exact symbols item (List.mem_of_find?_eq_some isItem)

/-- The symbol of a token lacks what the vocabulary and the token lack. -/
theorem Device.lacks_symbol_ofToken
    {device : Device}
    (symbols : device.vocabulary.Lacks sign)
    {token : String}
    (lacks : Text.Lacks sign token) :
    Text.Lacks sign (device.symbol (KeyName.ofToken token)) := by
  unfold KeyName.ofToken Token.classify
  cases Modifier.ofKeyword? token with
  | some held =>
      exact lacks_symbol_known control symbols _
  | none =>
      cases Key.ofAlias? token with
      | some key =>
          exact lacks_symbol_known control symbols _
      | none =>
          exact device.family.lacks_spell control lacks

/-- A chord lacks what its symbols and names lack. -/
theorem Command.lacks_chord
    {symbol : KeyName → String}
    {keys : List (KeyName × String)}
    (lacks :
      ∀ key ∈ keys,
        Text.Lacks sign (symbol key.1) ∧ Text.Lacks sign key.2) :
    ∀ step ∈ chord keys, (step.mapKey symbol).Lacks sign := by
  intro step member
  rcases List.mem_append.mp member with isPress | isRelease
  · obtain ⟨key, isKey, rfl⟩ := List.mem_map.mp isPress
    refine ⟨(lacks key isKey).1, ?_⟩
    rintro _ ⟨rfl⟩
    exact Text.lacks_append.mpr
      ⟨Text.lacks_ofList control rfl, (lacks key isKey).2⟩
  · obtain ⟨key, isKey, rfl⟩ := List.mem_map.mp isRelease
    rw [List.mem_reverse] at isKey
    refine ⟨(lacks key isKey).1, ?_⟩
    rintro _ ⟨rfl⟩
    exact Text.lacks_append.mpr
      ⟨Text.lacks_ofList control rfl, (lacks key isKey).2⟩

/--
A plan in the list lacks what the vocabulary and the parameters of the command
lack, and the name of its kind if it has one.
-/
theorem Command.Planned.lacks
    {pause : Text.Milliseconds}
    {command : Command}
    {plan : Plan KeyName}
    (planned : Planned pause command plan)
    {device : Device}
    (symbols : device.vocabulary.Lacks sign)
    (parametersLack :
      ∀ parameter ∈ command.parameters, Text.Lacks sign parameter)
    (nameLacks :
      ∀ name, command.kind = .custom name → Text.Lacks sign name) :
    (plan.mapKey device.symbol).Lacks sign := by
  have first
      {value : String}
      (isFirst : command.firstParameter? = some value) :
      Text.Lacks sign value :=
    parametersLack value (List.mem_of_head? isFirst)
  have chordLacks
      {keys : List (KeyName × String)}
      (keysLack :
        ∀ key ∈ keys,
          Text.Lacks sign (device.symbol key.1) ∧ Text.Lacks sign key.2) :
      ((Plan.ofSteps (chord keys)).mapKey device.symbol).Lacks sign := by
    intro entry member
    obtain ⟨named, isNamed, rfl⟩ := List.mem_map.mp member
    obtain ⟨step, isStep, rfl⟩ := List.mem_map.mp isNamed
    exact lacks_chord control keysLack step isStep
  cases planned with
  | key =>
      refine chordLacks ?_
      intro key member
      rw [List.mem_singleton.mp member]
      exact ⟨Device.lacks_symbol_known control symbols _,
        Key.lacks_keyword control _⟩
  | combination =>
      refine chordLacks ?_
      intro key member
      obtain ⟨token, isToken, rfl⟩ := List.mem_map.mp member
      have tokenLacks := parametersLack token isToken
      exact ⟨Device.lacks_symbol_ofToken control symbols tokenLacks,
        tokenLacks⟩
  | comment =>
      have optional :
          Text.Lacks sign (command.firstParameter?.getD "") := by
        cases isFirst : command.firstParameter? with
        | none =>
            exact Text.lacks_ofList control rfl
        | some value =>
            exact first isFirst
      simpa [Plan.lacks_mapKey, Plan.ofEntries] using optional
  | text _ isFirst | attackModeKeyboard _ isFirst
  | attackModeStorage _ isFirst | attackModeOther _ isFirst | log _ isFirst
  | validate _ isFirst | branch _ isFirst | loop _ isFirst =>
      have value := first isFirst
      simp (disch := decide) [Plan.lacks_mapKey, Plan.ofEntries,
        Plan.ofSteps, Action.mapKey, Action.Lacks, Text.lacks_append,
        Text.lacks_ofList control, value, value.upper control]
  | custom kind =>
      have name := nameLacks _ kind
      simp (disch := decide) [Plan.lacks_mapKey, customPlan, Action.mapKey,
        Action.Lacks, Text.lacks_append, Text.lacks_ofList control, name]
  | _ =>
      simp (disch := decide) [Plan.lacks_mapKey, Plan.ofEntries,
        Plan.ofSteps, pausePlan, switchPlan, Action.mapKey, Action.Lacks,
        Text.lacks_append, Text.lacks_ofList control,
        Text.lacks_wordNumeral control]

omit control in
/-- The steps of a plan lack what the plan lacks. -/
theorem Plan.Lacks.steps
    {plan : Plan KeyName}
    {symbol : KeyName → String}
    (lacks : (plan.mapKey symbol).Lacks sign)
    {step : Step KeyName}
    (member : step ∈ plan.steps) :
    (step.mapKey symbol).Lacks sign := by
  obtain ⟨entry, isEntry, isStep⟩ := List.mem_filterMap.mp member
  cases entry with
  | perform performed =>
      cases isStep
      exact lacks _ (List.mem_map_of_mem isEntry)
  | remark text | aside text | loop count steps =>
      cases isStep

/--
The plan for a device lacks what the vocabulary, the command and the command
before it lack.
-/
theorem Command.lacks_of_planFor
    {device : Device}
    {pause : Text.Milliseconds}
    {previous? : Option Command}
    {command : Command}
    {plan : Plan String}
    (planned : command.planFor device pause previous? = .ok plan)
    (symbols : device.vocabulary.Lacks sign)
    (lacks : command.Lacks sign)
    (previousLacks : ∀ previous ∈ previous?, previous.Lacks sign) :
    plan.Lacks sign := by
  obtain ⟨named, namedPlan, rfl⟩ := exists_plan_of_planFor planned
  rcases plan_eq_ok.mp namedPlan with direct | replayed
  · exact direct.lacks control symbols lacks.parameters lacks.name
  · cases replayed with
    | @replay _ count _ repeated _ _ _ _ isPrevious repeatedPlanned =>
        have repeatedLacks :
            (repeated.mapKey device.symbol).Lacks sign :=
          repeatedPlanned.lacks control symbols
            (previousLacks _ isPrevious).parameters
            (previousLacks _ isPrevious).name
        intro entry member
        rcases List.mem_cons.mp member with isRemark | inRest
        · rw [isRemark]
          simp (disch := decide) only [Entry.mapKey, Entry.Lacks,
            Text.lacks_append, Text.lacks_ofList control,
            Text.lacks_intRepr control, and_self]
        · rw [List.mem_singleton.mp inRest]
          intro step isStep
          obtain ⟨keyStep, isKeyStep, rfl⟩ := List.mem_map.mp isStep
          unfold repeatedSteps at isKeyStep
          split at isKeyStep
          · rw [List.mem_singleton.mp isKeyStep]
            exact ⟨trivial, by simp [Step.mapKey, Step.plain]⟩
          · exact repeatedLacks.steps isKeyStep

end Planning

end Keystroke
