import Keystroke.Proofs.Indentation
import Keystroke.Proofs.ProgramLines

namespace Keystroke

/-!
# The blocks of a program are well nested

In a sketch a block stands between braces, and reading its lines with a counter
shows that every block is closed and nothing else is.  Together with the
indentation in CircuitPython this gives the nesting of every program: whatever
the script, the lines of its body are whole lines, and the blocks that they open
are filled and closed.
-/

namespace Arduino

/-! ## Braces -/

/-- Whether a line opens a block: a branch, a loop or a counted loop. -/
def opensBlock
    (line : String) :
    Bool :=
  let text := (Text.trimStart line).toList
  text == "if (true) \x7b".toList ||
    text == "while (true) \x7b".toList ||
    ("for (unsigned long ".toList.isPrefixOf text &&
      ") \x7b".toList.isSuffixOf text)

/-- Whether a line closes a block. -/
def closesBlock
    (line : String) :
    Bool :=
  (Text.trimStart line).toList == "\x7d".toList

/-- The number of open blocks after a line, unless it closes one too many. -/
def depthAfter
    (depth : Nat)
    (line : String) :
    Option Nat :=
  if opensBlock line then
    some (depth + 1)
  else if closesBlock line then
    if depth = 0 then none else some (depth - 1)
  else
    some depth

/-- However many blocks are open, the lines close those that they open. -/
def Balanced
    (lines : List String) :
    Prop :=
  ∀ depth, lines.foldlM depthAfter depth = some depth

/-- Trimming takes the indentation of a line away. -/
theorem trimStart_indented
    (text : String) :
    Text.trimStart (indentation ++ text) = Text.trimStart text := by
  simp [Text.trimStart, indentation, Text.isSpace]

/-- Indentation does not change how many blocks are open. -/
theorem depthAfter_indented
    (depth : Nat)
    (text : String) :
    depthAfter depth (indentation ++ text) = depthAfter depth text := by
  have opens : opensBlock (indentation ++ text) = opensBlock text := by
    rw [opensBlock, trimStart_indented]
    rfl
  have closes : closesBlock (indentation ++ text) = closesBlock text := by
    rw [closesBlock, trimStart_indented]
    rfl
  rw [depthAfter, opens, closes]
  rfl

/-- A plain statement neither opens nor closes a block. -/
theorem depthAfter_of_startsPlainly
    {text : String}
    (plain : StartsPlainly text)
    (depth : Nat) :
    depthAfter depth text = some depth := by
  obtain ⟨first, isPlain, head⟩ := plain
  obtain ⟨rest, shape⟩ := List.head?_eq_some_iff.mp head
  have different :
      ∀ sign ∈ plainStarts,
        Text.isSpace sign = false ∧
          sign ≠ 'i' ∧ sign ≠ 'w' ∧ sign ≠ 'f' ∧ sign ≠ '\x7d' := by
    simp [plainStarts, Text.isSpace]
  obtain ⟨notBlank, noBranch, noLoop, noCount, noEnd⟩ :=
    different first isPlain
  simp [depthAfter, opensBlock, closesBlock, Text.trimStart, shape,
    notBlank, noBranch, noLoop, noEnd, List.isPrefixOf, noCount.symm]

/-- A comment neither opens nor closes a block. -/
theorem depthAfter_of_isComment
    {line : String}
    (isComment : Family.arduino.isComment line)
    (depth : Nat) :
    depthAfter depth line = some depth := by
  have marker : Family.arduino.marker.toList = ['/', '/'] := by decide
  rw [Family.isComment, marker, List.isPrefixOf_iff_prefix] at isComment
  obtain ⟨rest, shape⟩ := isComment
  simp [depthAfter, opensBlock, closesBlock, ← shape, List.isPrefixOf]

namespace Balanced

/-- No lines are balanced. -/
theorem nil :
    Balanced [] :=
  fun _ => rfl

/-- A line that neither opens nor closes a block is balanced. -/
theorem singleton
    {line : String}
    (neutral : ∀ depth, depthAfter depth line = some depth) :
    Balanced [line] := by
  intro depth
  rw [List.foldlM_cons, neutral]
  rfl

/-- Balanced lines stand one after the other. -/
theorem append
    {first second : List String}
    (firstBalanced : Balanced first)
    (secondBalanced : Balanced second) :
    Balanced (first ++ second) := by
  intro depth
  rw [List.foldlM_append, firstBalanced depth]
  exact secondBalanced depth

/-- Balanced lines may be indented. -/
theorem indented
    {lines : List String}
    (balanced : Balanced lines) :
    Balanced (lines.map fun text => indentation ++ text) := by
  intro depth
  rw [List.foldlM_map]
  simp only [depthAfter_indented]
  exact balanced depth

/-- Balanced lines between braces are balanced. -/
theorem block
    {first : String}
    {body : List String}
    (opens : opensBlock first)
    (balanced : Balanced body) :
    Balanced (first :: body ++ ["\x7d"]) := by
  intro depth
  have opened : depthAfter depth first = some (depth + 1) := by
    rw [depthAfter, if_pos opens]
  have closed : depthAfter (depth + 1) "\x7d" = some depth := by
    rw [depthAfter, if_neg (by decide), if_pos (by decide),
      if_neg (Nat.succ_ne_zero depth), Nat.add_sub_cancel]
  rw [List.cons_append, List.foldlM_cons, opened]
  change (body ++ ["\x7d"]).foldlM depthAfter (depth + 1) = some depth
  rw [List.foldlM_append, balanced (depth + 1)]
  change ["\x7d"].foldlM depthAfter (depth + 1) = some depth
  rw [List.foldlM_cons, closed]
  rfl

/-- Balanced parts are balanced together. -/
theorem flatMap
    {Part : Type}
    {linesOf : Part → List String}
    {parts : List Part}
    (balanced : ∀ part ∈ parts, Balanced (linesOf part)) :
    Balanced (parts.flatMap linesOf) := by
  induction parts with
  | nil =>
      exact nil
  | cons part rest inductionHypothesis =>
      rw [List.forall_mem_cons] at balanced
      rw [List.flatMap_cons]
      exact balanced.1.append (inductionHypothesis balanced.2)

/-- Lines are balanced if they are without their comments. -/
theorem of_filter
    {lines : List String}
    (balanced :
      Balanced (lines.filter fun text => !Family.arduino.isComment text)) :
    Balanced lines := by
  have sameDepth
      (depth : Nat) :
      lines.foldlM depthAfter depth =
        (lines.filter fun text =>
          !Family.arduino.isComment text).foldlM depthAfter depth := by
    clear balanced
    induction lines generalizing depth with
    | nil =>
        rfl
    | cons line rest inductionHypothesis =>
        cases isComment : Family.arduino.isComment line with
        | true =>
            rw [List.filter_cons_of_neg (by simp [isComment]),
              List.foldlM_cons, depthAfter_of_isComment isComment]
            exact inductionHypothesis depth
        | false =>
            rw [List.filter_cons_of_pos (by simp [isComment]),
              List.foldlM_cons, List.foldlM_cons]
            exact bind_congr fun next => inductionHypothesis next
  intro depth
  rw [sameDepth]
  exact balanced depth

/-- A plain statement is balanced. -/
theorem of_startsPlainly
    {text : String}
    (plain : StartsPlainly text) :
    Balanced [text] :=
  singleton (depthAfter_of_startsPlainly plain)

end Balanced

/-! ## The statements of deeds -/

/-- The statements of an action are balanced. -/
theorem balanced_action
    (action : Action String) :
    Balanced (action.statements .arduino) := by
  have starts {text : String} := @startsPlainly_of_head text
  cases action with
  | wait duration =>
      exact .of_startsPlainly
        (((starts 'd' (by decide) rfl).append _).append _)
  | waitBetween least most =>
      exact .of_startsPlainly
        (((((starts 'd' (by decide) rfl).append _).append _).append
          _).append _)
  | typeText text | press symbol | release symbol =>
      exact .of_startsPlainly
        (((starts 'K' (by decide) rfl).append _).append _)
  | print text =>
      exact .of_startsPlainly
        (((starts 'S' (by decide) rfl).append _).append _)
  | recordSafeMode enabled =>
      cases enabled <;>
        exact .of_startsPlainly (starts 's' (by decide) rfl)
  | idle =>
      exact .of_startsPlainly (starts '(' (by decide) rfl)
  | branchAlways condition =>
      have opens : opensBlock "if (true) \x7b" := by decide
      rw [Action.statements]
      simpa only [List.cons_append, List.nil_append] using
        Balanced.block opens Balanced.nil
  | loopOnce condition =>
      have body :
          "  break;  // Placeholder for condition: " ++ condition =
            indentation ++
              ("break;  // Placeholder for condition: " ++ condition) := by
        rw [← String.append_assoc]
        rfl
      have plain :
          Balanced
            ["break;  // Placeholder for condition: " ++ condition] :=
        .of_startsPlainly ((starts 'b' (by decide) rfl).append _)
      have opens : opensBlock "while (true) \x7b" := by decide
      rw [Action.statements, body]
      simpa only [List.map_cons, List.map_nil, List.cons_append,
        List.nil_append] using Balanced.block opens plain.indented

/-- The statements of a step are balanced. -/
theorem balanced_step
    (verbose : Bool)
    {step : Step String}
    (wellNoted : step.WellNoted) :
    Balanced (step.statements .arduino verbose) := by
  rcases Step.statements_eq_or_plain .arduino verbose wellNoted with
    same | ⟨text, shape, plain⟩
  · rw [same]
    exact balanced_action step.action
  · rw [shape]
    exact .of_startsPlainly plain

/-- A counted loop opens a block. -/
theorem opensBlock_loop
    (count : Nat) :
    opensBlock
      ("for (unsigned long i = 0; i < " ++ count.repr ++
        "; i++) \x7b") := by
  have undented :
      (Text.trimStart
          ("for (unsigned long i = 0; i < " ++ count.repr ++
            "; i++) \x7b")).toList =
        "for (unsigned long ".toList ++ "i = 0; i < ".toList ++
          count.repr.toList ++ "; i++".toList ++ ") \x7b".toList := by
    simp [Text.trimStart, Text.isSpace]
  have starts :
      "for (unsigned long ".toList <+:
        "for (unsigned long ".toList ++ "i = 0; i < ".toList ++
          count.repr.toList ++ "; i++".toList ++ ") \x7b".toList := by
    simp only [List.append_assoc]
    exact List.prefix_append _ _
  have ends :
      ") \x7b".toList <:+
        "for (unsigned long ".toList ++ "i = 0; i < ".toList ++
          count.repr.toList ++ "; i++".toList ++ ") \x7b".toList :=
    List.suffix_append _ _
  rw [← List.isPrefixOf_iff_prefix] at starts
  rw [← List.isSuffixOf_iff_suffix] at ends
  simp only [opensBlock, undented, starts, ends, Bool.and_self,
    Bool.or_true]

/-- The statements of a deed are balanced. -/
theorem balanced_deed
    (verbose : Bool)
    {deed : Deed String}
    (wellFormed : deed.WellFormed) :
    Balanced (deed.statements .arduino verbose) := by
  cases deed with
  | once step =>
      exact balanced_step verbose wellFormed
  | loop count steps =>
      have body :
          Balanced (steps.flatMap (Step.statements .arduino verbose)) :=
        Balanced.flatMap fun step isStep =>
          balanced_step verbose (wellFormed.2 step isStep)
      exact Balanced.block (opensBlock_loop count) body.indented

/-- The statements of deeds in a body are balanced. -/
theorem balanced_bodyStatements
    (symbol : KeyName → String)
    (verbose : Bool)
    {deeds : List (Deed KeyName)}
    (wellFormed : ∀ deed ∈ deeds, deed.WellFormed) :
    Balanced (Deed.bodyStatements .arduino symbol verbose deeds) :=
  Balanced.indented (Balanced.flatMap fun deed isDeed =>
    balanced_deed verbose ((wellFormed deed isDeed).mapKey symbol))

end Arduino

/-! ## Whole programs -/

/-- The lines that are neither empty nor comments. -/
def Family.codeLines
    (family : Family)
    (lines : List String) :
    List String :=
  lines.filter fun line => line ≠ "" && !family.isComment line

namespace CircuitPython

/--
Statements in a body that are nested by their indentation.  They start at the
depth of the body, every line that opens a block is followed by a line four
spaces deeper, and no other line is followed by a deeper one.
-/
structure WellIndented
    (lines : List String) :
    Prop where
  start : ∀ line ∈ lines.head?, indent line = 4
  levels : ∀ line ∈ lines, indent line ∈ [4, 8, 12]
  opened :
    ∀ before line after,
      lines = before ++ line :: after →
      opensBlock line →
      ∃ next rest, after = next :: rest ∧ indent next = indent line + 4
  elsewhere :
    ∀ before line next after,
      lines = before ++ line :: next :: after →
      indent line < indent next →
      opensBlock line

/-- A suite at the depth of a body is well indented. -/
theorem Suite.wellIndented
    {lines : List String}
    (suite : Suite 4 2 lines) :
    WellIndented lines where
  start := suite.start
  levels := by
    intro line member
    obtain ⟨level, bound, isIndent⟩ := suite.levels line member
    simp only [List.mem_cons, List.not_mem_nil, or_false]
    omega
  opened := by
    rintro before line after rfl opens
    cases after with
    | nil =>
        have opensNone := suite.finish line (by simp)
        rw [opens] at opensNone
        cases opensNone
    | cons next rest =>
        obtain ⟨_, continues, _⟩ :=
          List.isChain_append_cons_cons.mp suite.steps
        exact ⟨next, rest, rfl, continues.opened opens⟩
  elsewhere := by
    rintro before line next after rfl deeper
    obtain ⟨_, continues, _⟩ :=
      List.isChain_append_cons_cons.mp suite.steps
    by_contra opensNone
    rw [Bool.not_eq_true] at opensNone
    have shallow := continues.elsewhere opensNone
    omega

end CircuitPython

namespace Stateless

variable
  {config : EncoderConfig}
  {device : Device}
  {commands : List Command}

/-- The lines of a block that are neither empty nor comments. -/
theorem codeLines_of_block
    {index : Nat}
    {command : Command}
    {lines : List String}
    (written : block config device commands index command = .ok lines) :
    device.family.codeLines lines =
      Deed.bodyStatements device.family device.symbol
        (safeModeAfter config (commands.take index))
        (deedsAt config.pause commands index command) := by
  have indented : device.family.indentation ≠ "" := by
    cases device.family <;> decide
  have notEmpty :
      ∀ line ∈ Deed.bodyStatements device.family device.symbol
          (safeModeAfter config (commands.take index))
          (deedsAt config.pause commands index command),
        decide (line ≠ "") := by
    intro line member
    obtain ⟨text, _, rfl⟩ := List.mem_map.mp member
    simp [indented]
  rw [Family.codeLines, ← List.filter_filter, filter_block written,
    List.filter_append, List.filter_eq_self.mpr notEmpty]
  exact List.append_nil _

/-- The block of every command in CircuitPython is a suite. -/
theorem suite_of_block
    (isPython : device.family = .circuitPython)
    {index : Nat}
    {command : Command}
    {lines : List String}
    (written : block config device commands index command = .ok lines) :
    CircuitPython.Suite 4 2 (Family.circuitPython.codeLines lines) := by
  have statements := codeLines_of_block written
  rw [isPython] at statements
  rw [statements]
  exact CircuitPython.suite_bodyStatements _ _ fun _ =>
    wellFormed_of_mem_deedsAt

/-- The block of every command in a sketch is balanced. -/
theorem balanced_of_block
    (isArduino : device.family = .arduino)
    {index : Nat}
    {command : Command}
    {lines : List String}
    (written : block config device commands index command = .ok lines) :
    Arduino.Balanced lines := by
  have statements := filter_block written
  rw [isArduino] at statements
  refine Arduino.Balanced.of_filter ?_
  rw [statements]
  have body :=
    Arduino.balanced_bodyStatements device.symbol
      (safeModeAfter config (commands.take index))
      fun deed (member : deed ∈ deedsAt config.pause commands index command) =>
        wellFormed_of_mem_deedsAt member
  exact body.append (.singleton fun _ => rfl)

/--
The blocks of a program are well nested.  For every script and device without
line feeds in their texts and symbols, the body of a program is made of whole
lines.  In CircuitPython its statements are nested by their indentation.  In a
sketch its braces are balanced, and so are those of every command's block.
-/
theorem encode_nests_blocks
    {script : Script}
    {code : String}
    (commandsUnbroken : ∀ command ∈ script.commands, command.Lacks '\n')
    (symbolsUnbroken : device.vocabulary.Lacks '\n')
    (encoded : (Encoder.encode config script device).outcome = .ok code) :
    ∃ written,
      blocks config device script.commands = .ok written ∧
        code = programOf config script device written ∧
        (∀ line ∈ written.flatten, Text.Lacks '\n' line) ∧
        (device.family = .circuitPython →
          CircuitPython.WellIndented
            (Family.circuitPython.codeLines written.flatten)) ∧
        (device.family = .arduino →
          Arduino.Balanced written.flatten ∧
            ∀ lines ∈ written, Arduino.Balanced lines) := by
  obtain ⟨written, made, rfl⟩ := exists_blocks_of_encode encoded
  refine ⟨written, made, rfl,
    lacks_of_blocks (by decide) made symbolsUnbroken commandsUnbroken, ?_, ?_⟩
  · intro isPython
    refine CircuitPython.Suite.wellIndented ?_
    rw [Family.codeLines, ← List.flatMap_id, List.filter_flatMap]
    refine CircuitPython.Suite.flatMap fun lines isBlock => ?_
    obtain ⟨_, _, _, blockMade⟩ := exists_command_of_mem_blocks made isBlock
    exact suite_of_block isPython blockMade
  · intro isArduino
    have balanced : ∀ lines ∈ written, Arduino.Balanced lines := by
      intro lines isBlock
      obtain ⟨_, _, _, blockMade⟩ :=
        exists_command_of_mem_blocks made isBlock
      exact balanced_of_block isArduino blockMade
    refine ⟨?_, balanced⟩
    rw [← List.flatMap_id]
    exact Arduino.Balanced.flatMap balanced

/-- A branch, and the branch repeated in a loop. -/
def branchAgain :
    Script where
  commands :=
    [⟨.branch, 1, "IF ready", ["ready"]⟩,
      ⟨.replay, 2, "REPEAT 2", ["2"]⟩]
  source := "keys.txt"
  totalLines := 2

/-- A branch in a loop is nested in both families. -/
theorem encode_nests_blocks_branchAgain :
    (∃ written,
      blocks {} (.standard "board" "Board" .circuitPython)
            branchAgain.commands =
          .ok written ∧
        CircuitPython.WellIndented
          (Family.circuitPython.codeLines written.flatten)) ∧
      ∃ written,
        blocks {} (.standard "board" "Board" .arduino)
              branchAgain.commands =
            .ok written ∧
          Arduino.Balanced written.flatten ∧
          ∀ lines ∈ written, Arduino.Balanced lines := by
  have control : '\n'.toNat < 32 := by decide
  have commandsUnbroken :
      ∀ command ∈ branchAgain.commands, command.Lacks '\n' := by
    intro command member
    rcases List.mem_cons.mp member with rfl | isReplay
    · exact ⟨Text.lacks_ofList control rfl,
        List.forall_mem_singleton.mpr (Text.lacks_ofList control rfl),
        by simp⟩
    · rw [List.mem_singleton.mp isReplay]
      exact ⟨Text.lacks_ofList control rfl,
        List.forall_mem_singleton.mpr (Text.lacks_ofList control rfl),
        by simp⟩
  have succeeds
      (family : Family) :
      Outcome.Succeeds
        (Encoder.encode {} branchAgain
          (.standard "board" "Board" family)).outcome := by
    cases family <;> exact ⟨_, rfl⟩
  have symbolsUnbroken
      (family : Family) :
      (Device.standard "board" "Board" family).vocabulary.Lacks '\n' :=
    Vocabulary.lacks_standard control family
  obtain ⟨_, pythonEncoded⟩ := succeeds .circuitPython
  obtain ⟨pythonBlocks, pythonMade, _, _, wellIndented, _⟩ :=
    encode_nests_blocks commandsUnbroken (symbolsUnbroken .circuitPython)
      pythonEncoded
  obtain ⟨_, arduinoEncoded⟩ := succeeds .arduino
  obtain ⟨arduinoBlocks, arduinoMade, _, _, _, balanced⟩ :=
    encode_nests_blocks commandsUnbroken (symbolsUnbroken .arduino)
      arduinoEncoded
  exact ⟨⟨pythonBlocks, pythonMade, wellIndented rfl⟩,
    arduinoBlocks, arduinoMade, balanced rfl⟩

end Stateless

end Keystroke
