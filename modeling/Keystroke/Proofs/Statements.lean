import Keystroke.Proofs.Annotation

namespace Keystroke

/-!
# The statements among the lines of a program

A line of code knows whether it is a comment, and its text shows it: a comment
starts with the sign for comments and no statement does.  So taking away the
lines that look like comments leaves the statements.  What they are is stated
for every action, with the families side by side.
-/

/-! ## Lines that look like what they are -/

namespace Family

/-- A text that a reader takes for a comment. -/
def StartsComment
    (family : Family)
    (text : String) :
    Prop :=
  ∃ rest, text.toList = family.marker.toList ++ rest

/-- A text that starts neither with a blank nor with the sign of a comment. -/
def StartsStatement
    (family : Family)
    (text : String) :
    Prop :=
  ∃ first,
    text.toList.head? = some first ∧
      Text.isSpace first = false ∧
      family.marker.toList.head? ≠ some first

section Starts

variable
  {family : Family}
  {text : String}

/-- What stands behind a comment does not matter. -/
theorem StartsComment.append
    (starts : family.StartsComment text)
    (after : String) :
    family.StartsComment (text ++ after) := by
  obtain ⟨rest, shape⟩ := starts
  exact ⟨rest ++ after.toList, by simp [shape]⟩

/-- What stands behind a statement does not matter. -/
theorem StartsStatement.append
    (starts : family.StartsStatement text)
    (after : String) :
    family.StartsStatement (text ++ after) := by
  obtain ⟨first, head, notBlank, notSign⟩ := starts
  exact ⟨first, by simp [List.head?_append, head], notBlank, notSign⟩

/-- Indentation does not change whether a line is a comment. -/
theorem isComment_indented
    (family : Family)
    (depth : Nat)
    (text : String) :
    family.isComment
        (String.join (List.replicate depth family.indentation) ++ text) =
      family.isComment text := by
  have areBlank :
      ∀ character ∈
          (String.join (List.replicate depth family.indentation)).toList,
        Text.isSpace character :=
    fun _ member => family.isSpace_of_mem_indentation member
  simp only [isComment, Text.trimStart, String.toList_append,
    List.dropWhile_append_of_pos areBlank]

/-- A text that starts as a comment is one. -/
theorem StartsComment.isComment
    (starts : family.StartsComment text) :
    family.isComment text = true := by
  obtain ⟨rest, shape⟩ := starts
  obtain ⟨sign, others, markerShape, _, notBlank⟩ :=
    exists_marker_start family
  rw [markerShape] at shape
  have trimmed : (Text.trimStart text).toList = sign :: others ++ rest := by
    simp [Text.trimStart, shape, notBlank]
  rw [Family.isComment, trimmed, markerShape, List.isPrefixOf_iff_prefix]
  exact List.prefix_append _ _

/-- A text that starts as a statement is no comment. -/
theorem StartsStatement.isComment
    (starts : family.StartsStatement text) :
    family.isComment text = false := by
  obtain ⟨first, head, notBlank, notSign⟩ := starts
  obtain ⟨sign, others, markerShape, _, _⟩ := exists_marker_start family
  obtain ⟨rest, shape⟩ := List.head?_eq_some_iff.mp head
  have trimmed : (Text.trimStart text).toList = first :: rest := by
    simp [Text.trimStart, shape, notBlank]
  have different : (sign == first) = false := by
    rw [beq_eq_false_iff_ne]
    intro same
    exact notSign (by simp [markerShape, same])
  rw [Family.isComment, trimmed, markerShape]
  simp [List.isPrefixOf, different]

/-- A comment starts with the sign of comments. -/
theorem startsComment_comment
    (family : Family)
    (text : String) :
    family.StartsComment (family.comment text) := by
  cases family with
  | circuitPython =>
      have marker : circuitPython.marker.toList = ['#'] := by decide
      exact ⟨' ' :: text.toList, by
        simp [marker, comment, CircuitPython.comment]⟩
  | arduino =>
      have marker : arduino.marker.toList = ['/', '/'] := by decide
      simp only [StartsComment, marker, comment, Arduino.comment]
      split
      · exact ⟨' ' :: (Text.trimEnd text).toList ++ " //".toList, by simp⟩
      · exact ⟨' ' :: text.toList, by simp⟩

end Starts

end Family

namespace CodeLine

/-- The text of the line shows whether the line is a comment. -/
def Honest
    (family : Family)
    (line : CodeLine) :
    Prop :=
  match line.role with
  | .comment => family.StartsComment line.text
  | .statement => family.StartsStatement line.text

variable
  {family : Family}
  {line : CodeLine}

/-- A deeper line is as honest as the line. -/
theorem Honest.nested
    (honest : line.Honest family) :
    line.nested.Honest family :=
  honest

/-- A note behind a line leaves it honest. -/
theorem Honest.annotate
    (honest : line.Honest family)
    (note : String) :
    Honest family { line with text := family.annotate line.text note } := by
  rcases line with ⟨depth, role, text⟩
  cases role with
  | comment =>
      exact Family.StartsComment.append
        (Family.StartsComment.append honest "  ") _
  | statement =>
      exact Family.StartsStatement.append
        (Family.StartsStatement.append honest "  ") _

/-- An honest line looks like a comment in the body if it is one. -/
theorem Honest.isComment_bodyLine
    (honest : line.Honest family) :
    family.isComment (family.bodyLine line) = !line.isStatement := by
  rcases line with ⟨depth, role, text⟩
  rw [Family.bodyLine, render, Family.isComment_indented]
  cases role with
  | comment =>
      exact Family.StartsComment.isComment honest
  | statement =>
      exact Family.StartsStatement.isComment honest

/-- Taking the comments away from honest lines leaves the statements. -/
theorem filter_isComment_of_honest
    {lines : List CodeLine}
    (honest : ∀ line ∈ lines, line.Honest family) :
    (lines.map family.bodyLine).filter (fun text => !family.isComment text) =
      (lines.filter isStatement).map family.bodyLine := by
  have sameLines :
      lines.filter ((fun text => !family.isComment text) ∘ family.bodyLine) =
        lines.filter isStatement := by
    apply List.filter_congr
    intro line member
    simp [(honest line member).isComment_bodyLine]
  rw [List.filter_map, sameLines]

end CodeLine

namespace Family

/-- A visible character that starts no comment starts a statement. -/
theorem startsStatement_of_head
    (family : Family)
    {text : String}
    (first : Char)
    (head : text.toList.head? = some first)
    (visible :
      Text.isSpace first = false ∧ first ≠ '#' ∧ first ≠ '/') :
    family.StartsStatement text := by
  refine ⟨first, head, visible.1, ?_⟩
  cases family with
  | circuitPython =>
      have marker : circuitPython.marker.toList.head? = some '#' := by decide
      rw [marker]
      exact fun same => visible.2.1 (Option.some_inj.mp same).symm
  | arduino =>
      have marker : arduino.marker.toList.head? = some '/' := by decide
      rw [marker]
      exact fun same => visible.2.2 (Option.some_inj.mp same).symm

/-- The lines that CircuitPython writes for an action are honest. -/
private theorem honest_circuitPython
    (action : Action String) :
    ∀ line ∈ CircuitPython.actionLines action,
      line.Honest .circuitPython := by
  have starts {text : String} := @startsStatement_of_head .circuitPython text
  intro line member
  cases action with
  | wait duration =>
      rw [List.mem_singleton.mp member]
      exact ((starts 't' rfl (by decide)).append _).append _
  | waitBetween least most =>
      rcases List.mem_cons.mp member with isImport | isWait
      · rw [isImport]
        exact starts 'i' rfl (by decide)
      · rw [List.mem_singleton.mp isWait]
        exact ((((starts 't' rfl (by decide)).append _).append _).append
          _).append _
  | typeText text | press symbol | release symbol =>
      rw [List.mem_singleton.mp member]
      exact ((starts 'k' rfl (by decide)).append _).append _
  | print text =>
      rw [List.mem_singleton.mp member]
      exact ((starts 'p' rfl (by decide)).append _).append _
  | recordSafeMode enabled =>
      rw [List.mem_singleton.mp member]
      exact (starts 's' rfl (by decide)).append _
  | idle =>
      rw [List.mem_singleton.mp member]
      exact starts 'p' rfl (by decide)
  | branchAlways condition =>
      rcases List.mem_cons.mp member with isBranch | isBody
      · rw [isBranch]
        exact starts 'i' rfl (by decide)
      · rw [List.mem_singleton.mp isBody]
        exact (starts 'p' rfl (by decide)).append _
  | loopOnce condition =>
      rcases List.mem_cons.mp member with isLoop | isBody
      · rw [isLoop]
        exact starts 'w' rfl (by decide)
      · rw [List.mem_singleton.mp isBody]
        exact (starts 'b' rfl (by decide)).append _

/-- The lines that Arduino writes for an action are honest. -/
private theorem honest_arduino
    (action : Action String) :
    ∀ line ∈ Arduino.actionLines action,
      line.Honest .arduino := by
  have starts {text : String} := @startsStatement_of_head .arduino text
  intro line member
  cases action with
  | wait duration =>
      rw [List.mem_singleton.mp member]
      exact ((starts 'd' rfl (by decide)).append _).append _
  | waitBetween least most =>
      rw [List.mem_singleton.mp member]
      exact ((((starts 'd' rfl (by decide)).append _).append _).append
        _).append _
  | typeText text | press symbol | release symbol =>
      rw [List.mem_singleton.mp member]
      exact ((starts 'K' rfl (by decide)).append _).append _
  | print text =>
      rw [List.mem_singleton.mp member]
      exact ((starts 'S' rfl (by decide)).append _).append _
  | recordSafeMode enabled =>
      rw [List.mem_singleton.mp member]
      exact ((starts 's' rfl (by decide)).append _).append _
  | idle =>
      rw [List.mem_singleton.mp member]
      exact starts '(' rfl (by decide)
  | branchAlways condition =>
      rcases List.mem_cons.mp member with isBranch | isLater
      · rw [isBranch]
        exact starts 'i' rfl (by decide)
      · rcases List.mem_cons.mp isLater with isBody | isEnd
        · rw [isBody]
          exact StartsComment.append ⟨" Placeholder for condition: ".toList,
            by decide⟩ condition
        · rw [List.mem_singleton.mp isEnd]
          exact starts '\x7d' rfl (by decide)
  | loopOnce condition =>
      rcases List.mem_cons.mp member with isLoop | isLater
      · rw [isLoop]
        exact starts 'w' rfl (by decide)
      · rcases List.mem_cons.mp isLater with isBody | isEnd
        · rw [isBody]
          exact (starts 'b' rfl (by decide)).append _
        · rw [List.mem_singleton.mp isEnd]
          exact starts '\x7d' rfl (by decide)

/-- The lines of an action are honest. -/
theorem honest_actionLines
    (family : Family)
    (action : Action String) :
    ∀ line ∈ family.actionLines action, line.Honest family := by
  cases family with
  | circuitPython =>
      exact honest_circuitPython action
  | arduino =>
      exact honest_arduino action

/-- A comment of its own is an honest line. -/
theorem honest_commentLine
    (family : Family)
    (text : String) :
    (family.commentLine text).Honest family :=
  family.startsComment_comment text

/-- The lines around a loop are honest. -/
theorem honest_loopLines
    (family : Family)
    (count : UInt64) :
    ∀ line ∈
        CodeLine.statement (family.loopStart count) ::
          family.loopEnd?.toList.map CodeLine.statement,
      line.Honest family := by
  intro line member
  rcases List.mem_cons.mp member with isStart | isEnd
  · rw [isStart]
    cases family with
    | circuitPython | arduino =>
        exact ((startsStatement_of_head _ 'f' rfl (by decide)).append
          _).append _
  · obtain ⟨text, isText, rfl⟩ := List.mem_map.mp isEnd
    have head : text.toList.head? = some '\x7d' := by
      cases family with
      | circuitPython =>
          cases isText
      | arduino =>
          rw [List.mem_singleton.mp isText]
          rfl
    exact family.startsStatement_of_head '\x7d' head (by decide)

end Family

/-- The lines of a step are honest, with or without its note. -/
theorem Step.honest_lines
    (family : Family)
    (verbose : Bool)
    (step : Step String) :
    ∀ line ∈ step.lines family verbose, line.Honest family := by
  intro line member
  unfold Step.lines at member
  split at member
  · obtain ⟨bare, bareMember, rfl⟩ := List.mem_map.mp member
    exact (family.honest_actionLines step.action bare bareMember).annotate _
  · exact family.honest_actionLines step.action line member

/-- The text of an entry that is a comment. -/
def Entry.text?
    {KeyType : Type} :
    Entry KeyType → Option String
  | .remark text => some text
  | .aside text => some text
  | _ => none

/--
What holds of its comment, of the lines of its steps and of the lines around
loops, at any depth, holds of all lines of an entry.
-/
theorem Entry.forall_lines
    {Holds : CodeLine → Prop}
    {family : Family}
    {verbose : Bool}
    {entry : Entry String}
    (ofComment : ∀ text ∈ entry.text?, Holds (family.commentLine text))
    (ofStep :
      ∀ step ∈ entry.allSteps, ∀ line ∈ step.lines family verbose,
        Holds line)
    (aroundLoop :
      ∀ count,
        ∀ line ∈
            CodeLine.statement (family.loopStart count) ::
              family.loopEnd?.toList.map CodeLine.statement,
          Holds line)
    (nested : ∀ line, Holds line → Holds line.nested) :
    ∀ line ∈ entry.lines family verbose, Holds line := by
  intro line member
  cases entry with
  | remark text =>
      rw [List.mem_singleton.mp member]
      exact ofComment text rfl
  | aside text =>
      simp only [Entry.lines] at member
      split at member
      · rw [List.mem_singleton.mp member]
        exact ofComment text rfl
      · cases member
  | perform step =>
      exact ofStep step List.mem_cons_self line member
  | loop count steps =>
      rcases List.mem_append.mp member with inFront | isEnd
      · rcases List.mem_append.mp inFront with isStart | inBody
        · exact aroundLoop count line (List.mem_cons.mpr
            (.inl (List.mem_singleton.mp isStart)))
        · obtain ⟨bare, bareMember, rfl⟩ := List.mem_map.mp inBody
          obtain ⟨step, isStep, inStep⟩ :=
            List.mem_flatMap.mp (List.mem_filter.mp bareMember).1
          exact nested bare (ofStep step isStep bare inStep)
      · exact aroundLoop count line (List.mem_cons_of_mem _ isEnd)

/-- The lines of an entry are honest. -/
theorem Entry.honest_lines
    (family : Family)
    (verbose : Bool)
    (entry : Entry String) :
    ∀ line ∈ entry.lines family verbose, line.Honest family :=
  Entry.forall_lines
    (fun text _ => family.honest_commentLine text)
    (fun step _ => step.honest_lines family verbose)
    family.honest_loopLines
    (fun _ honest => honest.nested)

/-- The lines of a plan are honest. -/
theorem Plan.honest_lines
    (family : Family)
    (verbose : Bool)
    (plan : Plan String) :
    ∀ line ∈ plan.lines family verbose, line.Honest family := by
  intro line member
  obtain ⟨entry, _, inEntry⟩ := List.mem_flatMap.mp member
  exact entry.honest_lines family verbose line inEntry

/-! ## What the statements are -/

namespace Family

/-- The statements among some lines, without the indentation of a body. -/
def statementTexts
    (family : Family)
    (lines : List CodeLine) :
    List String :=
  (lines.filter CodeLine.isStatement).map
    (CodeLine.render family.indentation)

section StatementTexts

variable
  (family : Family)

@[simp] theorem statementTexts_nil :
    family.statementTexts [] = [] :=
  rfl

/-- A comment is no statement. -/
@[simp] theorem statementTexts_comment
    (text : String)
    (rest : List CodeLine) :
    family.statementTexts (.comment text :: rest) =
      family.statementTexts rest :=
  rfl

/-- A comment one level deeper is no statement either. -/
@[simp] theorem statementTexts_nested_comment
    (text : String)
    (rest : List CodeLine) :
    family.statementTexts ((CodeLine.comment text).nested :: rest) =
      family.statementTexts rest :=
  rfl

/-- A statement at the outermost level is its text. -/
@[simp] theorem statementTexts_statement
    (text : String)
    (rest : List CodeLine) :
    family.statementTexts (.statement text :: rest) =
      text :: family.statementTexts rest := by
  have rendered :
      (CodeLine.statement text).render family.indentation = text := by
    simp [CodeLine.statement, CodeLine.render]
  rw [statementTexts, List.filter_cons_of_pos rfl, List.map_cons, rendered]
  rfl

/-- A statement one level deeper is indented once. -/
@[simp] theorem statementTexts_nested_statement
    (text : String)
    (rest : List CodeLine) :
    family.statementTexts ((CodeLine.statement text).nested :: rest) =
      (family.indentation ++ text) :: family.statementTexts rest := by
  have rendered :
      (CodeLine.statement text).nested.render family.indentation =
        family.indentation ++ text := by
    simp [CodeLine.statement, CodeLine.nested, CodeLine.render]
  rw [statementTexts, List.filter_cons_of_pos rfl, List.map_cons, rendered]
  rfl

/-- The statements of lines that stand one after the other. -/
@[simp] theorem statementTexts_append
    (first second : List CodeLine) :
    family.statementTexts (first ++ second) =
      family.statementTexts first ++ family.statementTexts second := by
  simp [statementTexts]

/-- The statements of the lines of several parts. -/
theorem statementTexts_flatMap
    {Part : Type}
    (linesOf : Part → List CodeLine)
    (parts : List Part) :
    family.statementTexts (parts.flatMap linesOf) =
      parts.flatMap fun part => family.statementTexts (linesOf part) := by
  induction parts with
  | nil =>
      rfl
  | cons part rest inductionHypothesis =>
      simp [inductionHypothesis]

/-- The statements of lines one level deeper are indented once more. -/
theorem statementTexts_map_nested
    (lines : List CodeLine) :
    family.statementTexts (lines.map CodeLine.nested) =
      (family.statementTexts lines).map fun text =>
        family.indentation ++ text := by
  have rendered
      (line : CodeLine) :
      line.nested.render family.indentation =
        family.indentation ++ line.render family.indentation := by
    simp [CodeLine.nested, CodeLine.render, List.replicate_succ,
      String.append_assoc]
  simp only [statementTexts, List.filter_map, List.map_map]
  exact List.map_congr_left fun line _ => rendered line

/-- A note stands behind every statement among the lines. -/
theorem statementTexts_map_annotate
    (note : String)
    (lines : List CodeLine) :
    family.statementTexts
        (lines.map fun line =>
          { line with text := family.annotate line.text note }) =
      (family.statementTexts lines).map fun text =>
        text ++ "  " ++ family.comment note := by
  simp only [statementTexts, List.filter_map, List.map_map]
  refine List.map_congr_left fun line _ => ?_
  simp [CodeLine.render, annotate, String.append_assoc]

/-- The statements among the lines of a body are indented once. -/
theorem map_bodyLine_filter
    (lines : List CodeLine) :
    (lines.filter CodeLine.isStatement).map family.bodyLine =
      (family.statementTexts lines).map fun text =>
        family.indentation ++ text := by
  rw [← statementTexts_map_nested, statementTexts, List.filter_map,
    List.map_map]
  rfl

/-- The comments of a body taken away, its statements are left. -/
theorem filter_isComment_bodyLines
    {lines : List CodeLine}
    (honest : ∀ line ∈ lines, line.Honest family) :
    (lines.map family.bodyLine).filter (fun text => !family.isComment text) =
      (family.statementTexts lines).map fun text =>
        family.indentation ++ text := by
  rw [CodeLine.filter_isComment_of_honest honest, map_bodyLine_filter]

end StatementTexts

end Family

namespace Action

/-- The statements that an action is written as, with the families in turn. -/
def statements
    (family : Family)
    (action : Action String) :
    List String :=
  match action, family with
  | .wait duration, .circuitPython =>
      ["time.sleep(" ++ Text.seconds duration ++ ")"]
  | .wait duration, .arduino =>
      ["delay(" ++ duration.toNat.repr ++ ");"]
  | .waitBetween least most, .circuitPython =>
      ["import random",
        "time.sleep(random.uniform(" ++ Text.seconds least ++ ", " ++
          Text.seconds most ++ "))"]
  | .waitBetween least most, .arduino =>
      ["delay(random(" ++ least.toNat.repr ++ ", " ++
        (most.toNat + 1).repr ++ "));"]
  | .typeText text, .circuitPython =>
      ["keyboard_layout.write(\"" ++ Text.escape text ++ "\")"]
  | .typeText text, .arduino =>
      ["Keyboard.print(\"" ++ Text.escape text ++ "\");"]
  | .press symbol, .circuitPython =>
      ["keyboard.press(" ++ symbol ++ ")"]
  | .press symbol, .arduino =>
      ["Keyboard.press(" ++ symbol ++ ");"]
  | .release symbol, .circuitPython =>
      ["keyboard.release(" ++ symbol ++ ")"]
  | .release symbol, .arduino =>
      ["Keyboard.release(" ++ symbol ++ ");"]
  | .print text, .circuitPython =>
      ["print(\"" ++ Text.escape text ++ "\")"]
  | .print text, .arduino =>
      ["Serial.println(\"" ++ Text.escape text ++ "\");"]
  | .recordSafeMode enabled, .circuitPython =>
      [if enabled then "safe_mode = True" else "safe_mode = False"]
  | .recordSafeMode enabled, .arduino =>
      [if enabled then "safeMode = true;" else "safeMode = false;"]
  | .idle, .circuitPython =>
      ["pass"]
  | .idle, .arduino =>
      ["(void)0;"]
  | .branchAlways condition, .circuitPython =>
      ["if True:",
        "    pass  # Placeholder for condition: " ++ condition]
  | .branchAlways _, .arduino =>
      ["if (true) \x7b",
        "\x7d"]
  | .loopOnce condition, .circuitPython =>
      ["while True:",
        "    break  # Placeholder for condition: " ++ condition]
  | .loopOnce condition, .arduino =>
      ["while (true) \x7b",
        "  break;  // Placeholder for condition: " ++ condition,
        "\x7d"]

/-- Every action is written as some statement. -/
theorem statements_ne_nil
    (family : Family)
    (action : Action String) :
    action.statements family ≠ [] := by
  cases family <;> cases action <;> simp [statements]

/-- The upper bound of a random wait has a successor. -/
def InBounds
    {KeyType : Type} :
    Action KeyType → Prop
  | .waitBetween _ most => most.toNat + 1 < UInt64.size
  | _ => True

/-- A literal between two texts is an escaped text between quotes. -/
theorem literal_between
    (before text after : String) :
    before ++ Text.literal text ++ after =
      (before ++ "\"") ++ Text.escape text ++ ("\"" ++ after) := by
  simp only [Text.literal, String.append_assoc]

/-- The statements among the lines of an action are those of the table. -/
theorem statementTexts_actionLines
    (family : Family)
    {action : Action String}
    (inBounds : action.InBounds) :
    family.statementTexts (family.actionLines action) =
      action.statements family := by
  cases family with
  | circuitPython =>
      cases action with
      | typeText text | print text =>
          simp [Family.actionLines, CircuitPython.actionLines, statements,
            literal_between]
      | recordSafeMode enabled =>
          cases enabled <;> rfl
      | branchAlways condition | loopOnce condition =>
          simp [Family.actionLines, CircuitPython.actionLines, statements,
            Family.indentation, CircuitPython.indentation,
            ← String.append_assoc]
      | _ =>
          simp [Family.actionLines, CircuitPython.actionLines, statements,
            CircuitPython.wait]
  | arduino =>
      cases action with
      | waitBetween least most =>
          have successor : (most + 1).toNat = most.toNat + 1 := by
            rw [UInt64.toNat_add]
            exact Nat.mod_eq_of_lt inBounds
          simp [Family.actionLines, Arduino.actionLines, statements,
            Text.wordNumeral, successor]
      | typeText text | print text =>
          simp [Family.actionLines, Arduino.actionLines, statements,
            literal_between]
      | recordSafeMode enabled =>
          cases enabled <;> rfl
      | loopOnce condition =>
          simp [Family.actionLines, Arduino.actionLines, statements,
            Family.indentation, Arduino.indentation,
            ← String.append_assoc]
      | _ =>
          simp [Family.actionLines, Arduino.actionLines, statements,
            Arduino.wait, Text.wordNumeral]

end Action

namespace Step

/--
The statements of a step.  If the program is verbose, the note of the step stands
as a comment behind each of them.
-/
def statements
    (family : Family)
    (verbose : Bool)
    (step : Step String) :
    List String :=
  match verbose, step.note? with
  | true, some note =>
      (step.action.statements family).map fun text =>
        text ++ "  " ++ family.comment note
  | _, _ =>
      step.action.statements family

/-- The statements among the lines of a step. -/
theorem statementTexts_lines
    (family : Family)
    (verbose : Bool)
    {step : Step String}
    (inBounds : step.action.InBounds) :
    family.statementTexts (step.lines family verbose) =
      step.statements family verbose := by
  have bare := Action.statementTexts_actionLines family inBounds
  cases note : step.note? with
  | none =>
      simp only [lines, statements, note, bare]
  | some text =>
      cases verbose with
      | false =>
          simp only [lines, statements, bare]
      | true =>
          simp only [lines, statements, note,
            Family.statementTexts_map_annotate, bare]

/-- Every step is written as some statement. -/
theorem statements_ne_nil
    (family : Family)
    (verbose : Bool)
    (step : Step String) :
    step.statements family verbose ≠ [] := by
  unfold statements
  split
  · simp [Action.statements_ne_nil]
  · exact Action.statements_ne_nil family step.action

end Step

end Keystroke
