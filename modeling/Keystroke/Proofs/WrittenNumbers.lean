import Keystroke.Proofs.DecimalSeconds
import Keystroke.Proofs.HeldKeys
import Keystroke.Proofs.Replaying
import Mathlib.Order.Interval.Finset.Nat

namespace Keystroke

/-!
# The numbers of a script in a program

The value of a duration or of a count is an integer of 64 bits.  It is read from
the parameter, turned into a word without a sign, and written again in the
statements of a program.  On this way no digit is lost: a command that can be
encoded shows the integer that its parameter stands for, and the exclusive bound
of a random wait, which is one larger, still fits a word.
-/

/-! ## Reading -/

namespace Text

/-- A numeral that fits a signed word is read as its integer. -/
theorem Numeral.integer?_eq
    {text : String}
    {number : Int}
    (numeral : Numeral text.toList number)
    (above : -2 ^ 63 ≤ number)
    (below : number < 2 ^ 63) :
    integer? text = some number :=
  integer?_eq_some.mpr ⟨numeral, above, below⟩

/-- What is read is a numeral that fits a signed word. -/
theorem numeral_of_integer?
    {text : String}
    {number : Int}
    (reads : integer? text = some number) :
    Numeral text.toList number ∧ -2 ^ 63 ≤ number ∧ number < 2 ^ 63 :=
  integer?_eq_some.mp reads

end Text

namespace Command

/--
How the value of a duration is read.  A numeral gives its integer if this is not
negative and fits a signed word.  If it fits but is negative, the message says
so.  Every other value cannot be read, and the message shows it.
-/
structure ReadsDuration
    (command : Command)
    (role : DurationRole)
    (value : String) :
    Prop where
  fitting :
    ∀ number,
      Text.Numeral (Text.trim value).toList number →
      0 ≤ number →
      number < 2 ^ 63 →
      ∃ time,
        command.duration role (some value) = .ok time ∧
          (time.toNat : Int) = number
  negative :
    ∀ number,
      Text.Numeral (Text.trim value).toList number →
      -2 ^ 63 ≤ number →
      number < 0 →
      ∃ fault,
        command.duration role (some value) = .error fault ∧
          fault.message =
            role.label ++ " value must be non-negative in command" ++ ": " ++
              command.rawText
  unreadable :
    (∀ number,
      Text.Numeral (Text.trim value).toList number →
      number < -2 ^ 63 ∨ 2 ^ 63 ≤ number) →
      ∃ fault,
        command.duration role (some value) = .error fault ∧
          fault.message =
            "Invalid " ++ role.innerLabel ++ " value '" ++ value ++
              "' in command" ++ ": " ++ command.rawText

/-- A duration is turned into a word without a loss. -/
theorem ReadsAsDuration.toNat_word
    {value : String}
    {number : Int}
    (reads : ReadsAsDuration value number) :
    ((UInt64.ofNat number.toNat).toNat : Int) = number := by
  rw [UInt64.toNat_ofNat_of_lt' reads.toNat_lt]
  exact Int.toNat_of_nonneg reads.notNegative

/-- The value of a duration is a numeral of the word that it is turned into. -/
theorem ReadsAsDuration.numeral
    {value : String}
    {number : Int}
    (reads : ReadsAsDuration value number) :
    Text.Numeral (Text.trim value).toList
      ((UInt64.ofNat number.toNat).toNat : Int) := by
  rw [reads.toNat_word]
  exact (Text.numeral_of_integer? reads.reads).1

/-- Every value is read in one of the three ways. -/
theorem readsDuration
    (command : Command)
    (role : DurationRole)
    (value : String) :
    command.ReadsDuration role value where
  fitting := by
    intro number numeral notNegative below
    have reads : ReadsAsDuration value number :=
      ⟨numeral.integer?_eq (by omega) below, notNegative⟩
    exact ⟨_, duration_eq_ok.mpr ⟨value, number, rfl, reads, rfl⟩,
      reads.toNat_word⟩
  negative := by
    intro number numeral above isNegative
    refine ⟨command.fault (.negativeDuration role), ?_, rfl⟩
    simp [duration, numeral.integer?_eq above (by omega), isNegative]
  unreadable := by
    intro outside
    have unread : Text.integer? (Text.trim value) = none := by
      rw [Option.eq_none_iff_forall_ne_some]
      intro number reads
      obtain ⟨numeral, above, below⟩ := Text.numeral_of_integer? reads
      have := outside number numeral
      omega
    refine ⟨command.fault (.invalidDuration role value), ?_, rfl⟩
    simp [duration, unread]

end Command

/-! ## Writing -/

namespace Family

/--
The numeral of some milliseconds in a family: in seconds, exactly and without a
superfluous digit, or as they are.
-/
def WritesTime :
    Family → Nat → String → Prop
  | .circuitPython, number, numeral =>
      ∃ decimal : Text.Decimal,
        numeral = decimal.text ∧
          decimal.Canonical ∧
          decimal.value * 1000 = number
  | .arduino, number, numeral =>
      numeral = number.repr

/-- The statement that waits for the time of a numeral. -/
def waitFor :
    Family → String → String
  | .circuitPython, numeral => "time.sleep(" ++ numeral ++ ")"
  | .arduino, numeral => "delay(" ++ numeral ++ ");"

/-- The numerals of the bounds of a random wait; an exclusive one is larger. -/
def WritesBounds :
    Family → Nat → Nat → String → String → Prop
  | .circuitPython, least, most, lower, upper =>
      WritesTime .circuitPython least lower ∧
        WritesTime .circuitPython most upper
  | .arduino, least, most, lower, upper =>
      lower = least.repr ∧ upper = (most + 1).repr

/-- The statements that wait for a random time between two numerals. -/
def waitBetween :
    Family → String → String → List String
  | .circuitPython, lower, upper =>
      ["import random",
        "time.sleep(random.uniform(" ++ lower ++ ", " ++ upper ++ "))"]
  | .arduino, lower, upper =>
      ["delay(random(" ++ lower ++ ", " ++ upper ++ "));"]

/-- The first line of a loop that runs as often as a numeral says. -/
def loopFor :
    Family → String → String
  | .circuitPython, numeral =>
      "for _ in range(" ++ numeral ++ "):"
  | .arduino, numeral =>
      "for (unsigned long i = 0; i < " ++ numeral ++ "; i++) \x7b"

/-- Exact seconds are the numeral of a time in CircuitPython. -/
theorem writesTime_seconds
    (time : Text.Milliseconds) :
    WritesTime .circuitPython time.toNat (Text.seconds time) :=
  ⟨Text.decimalSeconds time, Text.seconds_eq_text time,
    Text.canonical_decimalSeconds time, Text.value_decimalSeconds time⟩

/-- A wait is written with the numeral of its time. -/
theorem exists_wait_eq
    (family : Family)
    (time : Text.Milliseconds) :
    ∃ numeral,
      family.WritesTime time.toNat numeral ∧
        family.wait time = family.waitFor numeral := by
  cases family with
  | circuitPython =>
      exact ⟨Text.seconds time, writesTime_seconds time, rfl⟩
  | arduino =>
      exact ⟨Text.wordNumeral time, rfl, rfl⟩

/-- A random wait is written with the numerals of its bounds. -/
theorem exists_waitBetween_eq
    (family : Family)
    (least : Text.Milliseconds)
    {most : Text.Milliseconds}
    (noOverflow : (most + 1).toNat = most.toNat + 1) :
    ∃ lower upper,
      family.WritesBounds least.toNat most.toNat lower upper ∧
        (family.actionLines (.waitBetween least most)).map family.bodyLine =
          (family.waitBetween lower upper).map fun text =>
            family.indentation ++ text := by
  cases family with
  | circuitPython =>
      exact ⟨Text.seconds least, Text.seconds most,
        ⟨writesTime_seconds least, writesTime_seconds most⟩,
        congrArg₂ (fun first second => [first, second])
          (bodyLine_statement _ _) (bodyLine_statement _ _)⟩
  | arduino =>
      refine ⟨Text.wordNumeral least, Text.wordNumeral (most + 1),
        ⟨rfl, ?_⟩, congrArg (fun line => [line]) (bodyLine_statement _ _)⟩
      rw [Text.wordNumeral, noOverflow]

/-- A loop is written with the numeral of its count. -/
theorem loopStart_eq
    (family : Family)
    (count : UInt64) :
    family.loopStart count = family.loopFor count.toNat.repr := by
  cases family <;> rfl

end Family

/-- The lines of a plan that starts with a remark. -/
theorem Plan.lines_remarked
    (family : Family)
    (verbose : Bool)
    (symbol : KeyName → String)
    (remark : String)
    (entries : List (Entry KeyName))
    (change : Change)
    (notices : List Record) :
    ((Plan.mapKey symbol
        { entries := .remark remark :: entries
          change := change
          notices := notices }).lines family verbose).map family.bodyLine =
      (family.indentation ++ family.comment remark) ::
        (Plan.lines family verbose
          (Plan.mapKey symbol (.ofEntries entries))).map family.bodyLine := by
  rw [← Family.bodyLine_comment]
  rfl

/-- The lines of a plan that is one step without a note. -/
theorem Plan.lines_plain
    (family : Family)
    (verbose : Bool)
    (symbol : KeyName → String)
    (action : Action KeyName) :
    Plan.lines family verbose
        (Plan.mapKey symbol (.ofEntries [.perform (.plain action)])) =
      family.actionLines (action.mapKey symbol) := by
  cases verbose <;> exact List.append_nil _

/-- The lines of a plan that is a loop start with the count of the loop. -/
theorem Plan.exists_lines_loop
    (family : Family)
    (verbose : Bool)
    (symbol : KeyName → String)
    (count : UInt64)
    (steps : List (Step KeyName)) :
    ∃ rest,
      (Plan.lines family verbose
          (Plan.mapKey symbol (.ofEntries [.loop count steps]))).map
          family.bodyLine =
        (family.indentation ++ family.loopFor count.toNat.repr) :: rest := by
  rw [← Family.loopStart_eq, ← Family.bodyLine_statement]
  exact ⟨_, rfl⟩

/-- The lines of a wait with a note. -/
theorem Step.lines_wait
    (family : Family)
    (verbose : Bool)
    (time : Text.Milliseconds)
    (note : String) :
    (Step.lines family verbose (.noted (.wait time) note)).map
        family.bodyLine =
      [family.indentation ++
        if verbose then
          family.annotate (family.wait time) note
        else
          family.wait time] := by
  cases family <;> cases verbose <;>
    exact congrArg (fun line => [line]) (Family.bodyLine_statement _ _)

/--
A random number from the range between two words, of which the upper one is one
larger than the largest number: that word does not overflow, the range is not
empty, and it is exactly that from the least to the largest number.
-/
structure DrawsBetween
    (least most : Text.Milliseconds) :
    Prop where
  noOverflow : (most + 1).toNat = most.toNat + 1
  notEmpty : least.toNat < (most + 1).toNat
  range :
    Finset.Ico least.toNat (most + 1).toNat =
      Finset.Icc least.toNat most.toNat

/-- Two durations in order are the bounds of such a range. -/
theorem Command.ReadsAsDuration.drawsBetween
    {value : String}
    {number : Int}
    (reads : ReadsAsDuration value number)
    {least : Text.Milliseconds}
    (ordered : least ≤ UInt64.ofNat number.toNat) :
    DrawsBetween least (UInt64.ofNat number.toNat) := by
  have noOverflow :
      (UInt64.ofNat number.toNat + 1).toNat =
        (UInt64.ofNat number.toNat).toNat + 1 := by
    rw [UInt64.toNat_add]
    exact Nat.mod_eq_of_lt reads.succ_lt
  have inOrder := UInt64.le_iff_toNat_le.mp ordered
  refine ⟨noOverflow, ?_, ?_⟩
  · rw [noOverflow]
    exact Nat.lt_succ_of_le inOrder
  · rw [noOverflow]
    ext drawn
    rw [Finset.mem_Ico, Finset.mem_Icc, Nat.lt_succ_iff]

namespace Stateless

/--
The lines of the commands that have numbers for parameters.  Every numeral in
them is that of a word, which is the integer that a parameter stands for.  A
default delay shows its number in a remark, and again in the waits after the
commands behind it, up to the next default delay.
-/
inductive WritesNumbers
    (family : Family)
    (verbose : Bool)
    (command : Command) :
    List String → Prop where
  | delay
      {value numeral : String}
      {time : Text.Milliseconds} :
      command.kind = .delay →
      command.firstParameter? = some value →
      Text.Numeral (Text.trim value).toList time.toNat →
      family.WritesTime time.toNat numeral →
      WritesNumbers family verbose command
        [family.indentation ++
          if verbose then
            family.annotate (family.waitFor numeral)
              ("Delay for " ++ time.toNat.repr ++ "ms")
          else
            family.waitFor numeral]
  | defaultDelay
      {value numeral : String}
      {time : Text.Milliseconds} :
      command.kind = .defaultDelay →
      command.firstParameter? = some value →
      Text.Numeral (Text.trim value).toList time.toNat →
      family.WritesTime time.toNat numeral →
      (∀ earlier later next,
        (∀ other ∈ later, other.kind ≠ .defaultDelay) →
        delayLines family (delayAfter (earlier ++ command :: later)) next =
          if 0 < time ∧
              next.kind ∉ [.comment, .remark, .defaultDelay] then
            [family.indentation ++ family.waitFor numeral]
          else
            []) →
      WritesNumbers family verbose command
        [family.indentation ++
          family.comment
            ("DEFAULT_DELAY: Set default delay to " ++ time.toNat.repr ++
              "ms between commands")]
  | randomDelay
      {first second lower upper : String}
      {others : List String}
      {least most : Text.Milliseconds} :
      command.kind = .randomDelay →
      command.parameters = first :: second :: others →
      Text.Numeral (Text.trim first).toList least.toNat →
      Text.Numeral (Text.trim second).toList most.toNat →
      DrawsBetween least most →
      family.WritesBounds least.toNat most.toNat lower upper →
      WritesNumbers family verbose command
        ((family.indentation ++
            family.comment
              ("RANDOM_DELAY: Random delay between " ++ least.toNat.repr ++
                "ms and " ++ most.toNat.repr ++ "ms")) ::
          (family.waitBetween lower upper).map fun text =>
            family.indentation ++ text)
  | replay
      {value : String}
      {count : UInt64}
      {rest : List String} :
      command.kind = .replay →
      command.firstParameter? = some value →
      Text.Numeral (Text.trim value).toList count.toNat →
      1 ≤ count.toNat →
      WritesNumbers family verbose command
        ((family.indentation ++
            family.comment
              ("REPEAT: Repeating last command " ++ count.toNat.repr ++
                " times")) ::
          (family.indentation ++ family.loopFor count.toNat.repr) ::
          rest)

/-- A default delay holds up to the next one. -/
theorem delayAfter_append
    {command : Command}
    {time : Text.Milliseconds}
    (sets : command.defaultDelay? = some time)
    (earlier : List Command)
    {later : List Command}
    (noOther : ∀ other ∈ later, other.kind ≠ .defaultDelay) :
    delayAfter (earlier ++ command :: later) = time := by
  have noneLater : later.reverse.findSome? Command.defaultDelay? = none := by
    rw [List.findSome?_eq_none_iff]
    intro other member
    have isOther := noOther other (List.mem_reverse.mp member)
    unfold Command.defaultDelay?
    split
    · contradiction
    · rfl
  simp [delayAfter, Command.latest, List.findSome?_append, noneLater, sets]

/-- A command with a plan of its own and numbers for parameters writes them. -/
theorem writesNumbers_of_planned
    {pause : Text.Milliseconds}
    {command : Command}
    {plan : Plan KeyName}
    (planned : Command.Planned pause command plan)
    (numeric :
      command.kind ∈ [.delay, .defaultDelay, .randomDelay, .replay])
    (family : Family)
    (symbol : KeyName → String)
    (verbose : Bool) :
    WritesNumbers family verbose command
      (((plan.mapKey symbol).lines family verbose).map family.bodyLine) := by
  cases planned with
  | @delay value number time kind parameter reads isTime =>
      obtain ⟨numeral, isNumeral, waits⟩ := family.exists_wait_eq time
      rw [Plan.mapKey_ofSteps, Plan.lines_ofSteps, List.map_singleton,
        List.flatMap_singleton]
      have lines := Step.lines_wait family verbose time
        ("Delay for " ++ Text.wordNumeral time ++ "ms")
      rw [waits] at lines
      exact lines ▸ .delay kind parameter (isTime ▸ reads.numeral) isNumeral
  | @defaultDelay value number time kind parameter reads isTime =>
      obtain ⟨numeral, isNumeral, waits⟩ := family.exists_wait_eq time
      have sets : command.defaultDelay? = some time := by
        simp [Command.defaultDelay?, kind, parameter, reads.reads, isTime]
      have lines := Plan.lines_remarked family verbose symbol
        ("DEFAULT_DELAY: Set default delay to " ++ Text.wordNumeral time ++
          "ms between commands")
        [] (.defaultDelay time) []
      refine lines ▸ .defaultDelay kind parameter (isTime ▸ reads.numeral)
        isNumeral ?_
      intro earlier later next noOther
      rw [delayAfter_append sets earlier noOther, delayLines, waits]
  | @randomDelay first second others lower upper least most kind parameters
      firstReads secondReads isLeast isMost ordered =>
      have draws : DrawsBetween least most := by
        rw [isMost] at ordered ⊢
        exact secondReads.drawsBetween ordered
      obtain ⟨lowerNumeral, upperNumeral, areNumerals, waits⟩ :=
        family.exists_waitBetween_eq least draws.noOverflow
      have lines := Plan.lines_remarked family verbose symbol
        ("RANDOM_DELAY: Random delay between " ++ Text.wordNumeral least ++
          "ms and " ++ Text.wordNumeral most ++ "ms")
        [.perform (.plain (.waitBetween least most))] .nothing []
      rw [Plan.lines_plain, Action.mapKey, waits] at lines
      exact lines ▸ .randomDelay kind parameters
        (isLeast ▸ firstReads.numeral) (isMost ▸ secondReads.numeral) draws
        areNumerals
  | comment kind =>
      rcases kind with kind | kind <;> simp [kind] at numeric
  | key kind | text kind | combination kind | pause kind | safeModeOn kind
  | safeModeOff kind | attackModeKeyboard kind | attackModeStorage kind
  | attackModeOn kind | attackModeOff kind | attackModeOther kind | log kind
  | validate kind | branch kind | otherwise kind | endBranch kind | loop kind
  | endLoop kind | custom kind =>
      simp [kind] at numeric

/-- A repetition writes its count. -/
theorem writesNumbers_of_replayed
    {pause : Text.Milliseconds}
    {previous? : Option Command}
    {command : Command}
    {plan : Plan KeyName}
    (replayed : Command.Replayed pause previous? command plan)
    (family : Family)
    (symbol : KeyName → String)
    (verbose : Bool) :
    WritesNumbers family verbose command
      (((plan.mapKey symbol).lines family verbose).map family.bodyLine) := by
  cases replayed with
  | @replay value count previous repeated kind parameter reads atLeastOne =>
      have counts : Command.ReadsAsDuration value count :=
        ⟨reads, by omega⟩
      have isCount := counts.toNat_word
      have lines := Plan.lines_remarked family verbose symbol
        ("REPEAT: Repeating last command " ++ count.repr ++ " times")
        [.loop (UInt64.ofNat count.toNat) (Command.repeatedSteps repeated)]
        .nothing repeated.notices
      have remark :
          count.repr = (UInt64.ofNat count.toNat).toNat.repr := by
        conv_lhs => rw [← isCount]
        rfl
      obtain ⟨rest, loops⟩ := Plan.exists_lines_loop family verbose symbol
        (UInt64.ofNat count.toNat) (Command.repeatedSteps repeated)
      rw [lines, loops, remark]
      exact .replay kind parameter counts.numeral (by omega)

/--
Numbers are written in full.  A value of a duration is read in one of three
ways.  The lines of a delay, a default delay, a random delay or a repetition
that can be encoded show the integers that its parameters stand for; the word
that a loop counts to is the count, and a random wait is drawn from exactly the
range between its bounds.
-/
theorem numbers_written_in_full :
    (∀ (command : Command) (role : DurationRole) (value : String),
        command.ReadsDuration role value) ∧
      ∀ (device : Device) (pause : Text.Milliseconds) (verbose : Bool)
        (previous? : Option Command) (command : Command)
        (lines : List String),
        command.kind ∈ [.delay, .defaultDelay, .randomDelay, .replay] →
        commandLines device pause verbose previous? command = .ok lines →
        WritesNumbers device.family verbose command lines := by
  refine ⟨Command.readsDuration, ?_⟩
  intro device pause verbose previous? command lines numeric written
  obtain ⟨plan, planned, rfl⟩ := Outcome.map_eq_ok.mp written
  obtain ⟨named, namedPlan, rfl⟩ := Command.exists_plan_of_planFor planned
  rcases Command.plan_eq_ok.mp namedPlan with direct | replayed
  · exact writesNumbers_of_planned direct numeric _ _ _
  · exact writesNumbers_of_replayed replayed _ _ _

/-- A random delay up to the largest duration there is. -/
def longestDelay :
    Command where
  kind := .randomDelay
  line := 1
  rawText := "RANDOM_DELAY -0 9223372036854775807"
  parameters := ["-0", " +009223372036854775807"]

/-- The exclusive bound of the longest random delay does not overflow. -/
theorem numbers_written_in_full_longestDelay :
    commandLines (.standard "teensy_4" "Teensy 4.0" .arduino) 5000 true none
          longestDelay =
        .ok
          ["  // RANDOM_DELAY: Random delay between 0ms and " ++
              "9223372036854775807ms",
            "  delay(random(0, 9223372036854775808));"] ∧
      WritesNumbers .arduino true longestDelay
        ["  // RANDOM_DELAY: Random delay between 0ms and " ++
            "9223372036854775807ms",
          "  delay(random(0, 9223372036854775808));"] := by
  have written :
      commandLines (.standard "teensy_4" "Teensy 4.0" .arduino) 5000 true none
          longestDelay =
        .ok
          ["  // RANDOM_DELAY: Random delay between 0ms and " ++
              "9223372036854775807ms",
            "  delay(random(0, 9223372036854775808));"] := by
    decide
  exact ⟨written,
    numbers_written_in_full.2 (.standard "teensy_4" "Teensy 4.0" .arduino)
      5000 true none longestDelay _ (by decide) written⟩

end Stateless

end Keystroke
