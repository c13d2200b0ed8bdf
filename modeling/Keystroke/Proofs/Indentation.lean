import Keystroke.Proofs.Performance
import Mathlib.Data.List.Chain

namespace Keystroke

/-!
# The indentation of statements

In CircuitPython a block is what stands deeper than the line that opens it.  A
`Suite` is a list of statements that starts at one depth and stays there or
deeper, in which every line that opens a block is followed by a deeper line and
no other line is.  Suites may follow each other and may be indented, and a line
that opens a block makes a suite of a deeper one.  So the statements of every
step, of every deed and of a whole body are suites.
-/

/-! ## Statements that are neither the start nor the end of a block -/

/-- The characters that statements within a block start with. -/
def plainStarts :
    List Char :=
  ['b', 'd', 'k', 'K', 'p', 's', 'S', 't', '(']

/-- A text that starts like a statement within a block. -/
def StartsPlainly
    (text : String) :
    Prop :=
  ∃ first ∈ plainStarts, text.toList.head? = some first

/-- The first character decides how a text starts. -/
theorem startsPlainly_of_head
    {text : String}
    (first : Char)
    (isPlain : first ∈ plainStarts)
    (head : text.toList.head? = some first) :
    StartsPlainly text :=
  ⟨first, isPlain, head⟩

/-- What stands behind a statement does not matter. -/
theorem StartsPlainly.append
    {text : String}
    (starts : StartsPlainly text)
    (after : String) :
    StartsPlainly (text ++ after) := by
  obtain ⟨first, isPlain, head⟩ := starts
  exact ⟨first, isPlain, by simp [List.head?_append, head]⟩

/-- An action that takes a note is one plain statement. -/
theorem Action.exists_plain_of_takesNote
    (family : Family)
    {action : Action String}
    (takes : action.takesNote) :
    ∃ text, action.statements family = [text] ∧ StartsPlainly text := by
  have starts {text : String} := @startsPlainly_of_head text
  cases family with
  | circuitPython =>
      cases action with
      | wait duration =>
          exact ⟨_, rfl,
            ((starts 't' (by decide) rfl).append _).append _⟩
      | typeText text | press symbol | release symbol =>
          exact ⟨_, rfl,
            ((starts 'k' (by decide) rfl).append _).append _⟩
      | _ =>
          cases takes
  | arduino =>
      cases action with
      | wait duration =>
          exact ⟨_, rfl,
            ((starts 'd' (by decide) rfl).append _).append _⟩
      | typeText text | press symbol | release symbol =>
          exact ⟨_, rfl,
            ((starts 'K' (by decide) rfl).append _).append _⟩
      | _ =>
          cases takes

/-- A step with a note is one plain statement, with the note or without. -/
theorem Step.statements_eq_or_plain
    (family : Family)
    (verbose : Bool)
    {step : Step String}
    (wellNoted : step.WellNoted) :
    step.statements family verbose = step.action.statements family ∨
      ∃ text, step.statements family verbose = [text] ∧
        StartsPlainly text := by
  unfold statements
  split
  · rename_i note isNote
    right
    obtain ⟨text, shape, plain⟩ :=
      Action.exists_plain_of_takesNote family
        (wellNoted (by simp [isNote]))
    refine ⟨family.annotate text note, by rw [shape]; rfl, ?_⟩
    exact (plain.append _).append _
  · exact .inl rfl

/-! ## Deeds that are written as blocks -/

/-- A deed with notes in place only and, if it is a loop, with some step. -/
def Deed.WellFormed
    {KeyType : Type} :
    Deed KeyType → Prop
  | .once step => step.WellNoted
  | .loop _ steps => steps ≠ [] ∧ ∀ step ∈ steps, step.WellNoted

/-- Another key leaves the note of a step in place. -/
theorem Step.WellNoted.mapKey
    {KeyType Symbol : Type}
    {step : Step KeyType}
    (wellNoted : step.WellNoted)
    (rename : KeyType → Symbol) :
    (step.mapKey rename).WellNoted := by
  intro noted
  have takes := wellNoted noted
  rcases step with ⟨action, note?⟩
  cases action <;> exact takes

/-- Other keys leave a deed well formed. -/
theorem Deed.WellFormed.mapKey
    {KeyType Symbol : Type}
    {deed : Deed KeyType}
    (wellFormed : deed.WellFormed)
    (rename : KeyType → Symbol) :
    (deed.mapKey rename).WellFormed := by
  cases deed with
  | once step =>
      exact Step.WellNoted.mapKey wellFormed rename
  | loop count steps =>
      refine ⟨by simpa using wellFormed.1, ?_⟩
      intro renamed member
      obtain ⟨step, isStep, rfl⟩ := List.mem_map.mp member
      exact (wellFormed.2 step isStep).mapKey rename

namespace Command

/-- The own steps of a command have their notes in place. -/
theorem wellNoted_of_mem_ownSteps
    {pause : Text.Milliseconds}
    {command : Command}
    {step : Step KeyName}
    (member : step ∈ command.ownSteps pause) :
    step.WellNoted := by
  unfold ownSteps at member
  split at member
  · rename_i plan planned
    exact (planned_of_directPlan planned).wellNoted step
      (Plan.mem_allSteps_of_mem_steps member)
  · cases member

/-- What a command does is well formed, a repetition included. -/
theorem wellFormed_of_mem_deeds
    {pause : Text.Milliseconds}
    {previous? : Option Command}
    {command : Command}
    {deed : Deed KeyName}
    (member : deed ∈ command.deeds pause previous?) :
    deed.WellFormed := by
  unfold deeds at member
  split at member
  · have repeatedWellNoted :
        ∀ step ∈ previous?.toList.flatMap (ownSteps pause),
          step.WellNoted := by
      intro step isStep
      obtain ⟨previous, _, inPrevious⟩ := List.mem_flatMap.mp isStep
      exact wellNoted_of_mem_ownSteps inPrevious
    split at member
    · rw [List.mem_singleton.mp member]
      exact ⟨by simp,
        List.forall_mem_singleton.mpr (Step.wellNoted_plain .idle)⟩
    · rename_i step steps isBody
      rw [List.mem_singleton.mp member]
      rw [isBody] at repeatedWellNoted
      exact ⟨by simp, repeatedWellNoted⟩
  · obtain ⟨step, isStep, rfl⟩ := List.mem_map.mp member
    exact wellNoted_of_mem_ownSteps isStep

end Command

/-- What is done in a block is well formed, the wait after it included. -/
theorem Stateless.wellFormed_of_mem_deedsAt
    {pause : Text.Milliseconds}
    {commands : List Command}
    {index : Nat}
    {command : Command}
    {deed : Deed KeyName}
    (member : deed ∈ deedsAt pause commands index command) :
    deed.WellFormed := by
  rcases List.mem_append.mp member with ofCommand | ofDelay
  · exact Command.wellFormed_of_mem_deeds ofCommand
  · unfold delayDeeds at ofDelay
    split at ofDelay
    · rw [List.mem_singleton.mp ofDelay]
      exact Step.wellNoted_plain _
    · cases ofDelay

namespace CircuitPython

/-! ## Suites -/

/-- The number of spaces before the text of a line. -/
def indent
    (line : String) :
    Nat :=
  (line.toList.takeWhile (· == ' ')).length

/-- Whether a line opens a block: a branch, a loop or a counted loop. -/
def opensBlock
    (line : String) :
    Bool :=
  let text := line.toList.dropWhile (· == ' ')
  text == "if True:".toList ||
    text == "while True:".toList ||
    ("for _ in range(".toList.isPrefixOf text &&
      "):".toList.isSuffixOf text)

/-- How a line may follow another: deeper only where a block is opened. -/
structure Continues
    (line next : String) :
    Prop where
  opened : opensBlock line → indent next = indent line + 4
  elsewhere : opensBlock line = false → indent next ≤ indent line

/--
Lines from one depth on, of which none is deeper than the given number of
levels, and which do not end where a block is opened.
-/
structure Suite
    (depth height : Nat)
    (lines : List String) :
    Prop where
  start : ∀ line ∈ lines.head?, indent line = depth
  levels : ∀ line ∈ lines, ∃ level ≤ height, indent line = depth + 4 * level
  steps : lines.IsChain Continues
  finish : ∀ line ∈ lines.getLast?, opensBlock line = false

/-- Indentation adds to the depth of a line. -/
theorem indent_indented
    (text : String) :
    indent (indentation ++ text) = indent text + 4 := by
  simp [indent, indentation]

/-- Indentation does not change whether a line opens a block. -/
theorem opensBlock_indented
    (text : String) :
    opensBlock (indentation ++ text) = opensBlock text := by
  simp [opensBlock, indentation]

/-- A plain statement is not indented and opens no block. -/
theorem indent_of_startsPlainly
    {text : String}
    (plain : StartsPlainly text) :
    indent text = 0 ∧ opensBlock text = false := by
  obtain ⟨first, isPlain, head⟩ := plain
  obtain ⟨rest, shape⟩ := List.head?_eq_some_iff.mp head
  have different :
      ∀ sign ∈ plainStarts,
        sign ≠ ' ' ∧ sign ≠ 'i' ∧ sign ≠ 'w' ∧ sign ≠ 'f' := by
    simp [plainStarts]
  obtain ⟨noSpace, noBranch, noLoop, noCount⟩ := different first isPlain
  simp [indent, opensBlock, shape, noSpace, noBranch, noLoop,
    List.isPrefixOf, noCount.symm]

namespace Suite

variable
  {depth height : Nat}

/-- No lines are a suite. -/
theorem nil :
    Suite depth height [] :=
  ⟨by simp, by simp, .nil, by simp⟩

/-- A line that opens no block is a suite at its depth. -/
theorem singleton
    {line : String}
    (isIndent : indent line = depth)
    (opensNone : opensBlock line = false) :
    Suite depth height [line] where
  start := by simpa using isIndent
  levels := by
    rw [List.forall_mem_singleton]
    exact ⟨0, Nat.zero_le _, isIndent⟩
  steps := .singleton line
  finish := by simpa using opensNone

/-- Suites of one depth stand one after the other. -/
theorem append
    {first second : List String}
    (firstSuite : Suite depth height first)
    (secondSuite : Suite depth height second) :
    Suite depth height (first ++ second) where
  start := by
    intro line isHead
    rw [List.head?_append, Option.mem_def, Option.or_eq_some_iff] at isHead
    rcases isHead with ofFirst | ⟨_, ofSecond⟩
    · exact firstSuite.start line ofFirst
    · exact secondSuite.start line ofSecond
  levels :=
    List.forall_mem_append.mpr ⟨firstSuite.levels, secondSuite.levels⟩
  steps := by
    refine firstSuite.steps.append secondSuite.steps ?_
    intro last isLast next isNext
    -- The second suite starts at the depth that the first never leaves.
    have opensNone := firstSuite.finish last isLast
    obtain ⟨level, _, lastIndent⟩ :=
      firstSuite.levels last (List.mem_of_getLast? isLast)
    have nextIndent := secondSuite.start next isNext
    refine ⟨fun opens => ?_, fun _ => by omega⟩
    rw [opensNone] at opens
    cases opens
  finish := by
    intro line isLast
    rw [List.getLast?_append, Option.mem_def, Option.or_eq_some_iff] at isLast
    rcases isLast with ofSecond | ⟨_, ofFirst⟩
    · exact secondSuite.finish line ofSecond
    · exact firstSuite.finish line ofFirst

/-- A suite may be indented as a whole. -/
theorem indented
    {lines : List String}
    (suite : Suite depth height lines) :
    Suite (depth + 4) height
      (lines.map fun text => indentation ++ text) where
  start := by
    intro line isHead
    rw [List.head?_map, Option.mem_def, Option.map_eq_some_iff] at isHead
    obtain ⟨text, isText, rfl⟩ := isHead
    rw [indent_indented, suite.start text isText]
  levels := by
    intro line member
    obtain ⟨text, isText, rfl⟩ := List.mem_map.mp member
    obtain ⟨level, bound, isIndent⟩ := suite.levels text isText
    refine ⟨level, bound, ?_⟩
    rw [indent_indented]
    omega
  steps := by
    refine List.isChain_map_of_isChain _ ?_ suite.steps
    intro line next continues
    constructor
    · intro opens
      rw [opensBlock_indented] at opens
      rw [indent_indented, indent_indented, continues.opened opens]
    · intro opensNone
      rw [opensBlock_indented] at opensNone
      rw [indent_indented, indent_indented]
      exact Nat.add_le_add_right (continues.elsewhere opensNone) 4
  finish := by
    intro line isLast
    rw [List.getLast?_map, Option.mem_def, Option.map_eq_some_iff] at isLast
    obtain ⟨text, isText, rfl⟩ := isLast
    rw [opensBlock_indented]
    exact suite.finish text isText

/-- A line that opens a block makes a suite of a deeper one. -/
theorem block
    {line : String}
    {body : List String}
    (isIndent : indent line = depth)
    (opens : opensBlock line)
    (bodySuite : Suite (depth + 4) height body)
    (notEmpty : body ≠ []) :
    Suite depth (height + 1) (line :: body) where
  start := by simpa using isIndent
  levels := by
    refine List.forall_mem_cons.mpr ⟨⟨0, Nat.zero_le _, isIndent⟩, ?_⟩
    intro inner member
    obtain ⟨level, bound, innerIndent⟩ := bodySuite.levels inner member
    exact ⟨level + 1, Nat.add_le_add_right bound 1, by omega⟩
  steps := by
    refine List.isChain_cons.mpr ⟨?_, bodySuite.steps⟩
    intro next isNext
    have nextIndent := bodySuite.start next isNext
    refine ⟨fun _ => by omega, fun opensNone => ?_⟩
    rw [opens] at opensNone
    cases opensNone
  finish := by
    intro last isLast
    obtain ⟨first, rest, rfl⟩ := List.exists_cons_of_ne_nil notEmpty
    rw [List.getLast?_cons_cons] at isLast
    exact bodySuite.finish last isLast

/-- A suite is one with more levels. -/
theorem higher
    {lines : List String}
    (suite : Suite depth height lines) :
    Suite depth (height + 1) lines where
  start := suite.start
  levels := by
    intro line member
    obtain ⟨level, bound, isIndent⟩ := suite.levels line member
    exact ⟨level, Nat.le_succ_of_le bound, isIndent⟩
  steps := suite.steps
  finish := suite.finish

/-- Parts that are suites of one depth are a suite. -/
theorem flatMap
    {Part : Type}
    {linesOf : Part → List String}
    {parts : List Part}
    (suites : ∀ part ∈ parts, Suite depth height (linesOf part)) :
    Suite depth height (parts.flatMap linesOf) := by
  induction parts with
  | nil =>
      exact nil
  | cons part rest inductionHypothesis =>
      rw [List.forall_mem_cons] at suites
      rw [List.flatMap_cons]
      exact suites.1.append (inductionHypothesis suites.2)

/-- A plain statement is a suite. -/
theorem of_startsPlainly
    {text : String}
    (plain : StartsPlainly text) :
    Suite 0 height [text] :=
  singleton (indent_of_startsPlainly plain).1 (indent_of_startsPlainly plain).2

end Suite

/-! ## The statements of deeds -/

/-- A block with one plain statement that shows a condition. -/
theorem suite_of_condition
    {line : String}
    (isIndent : indent line = 0)
    (opens : opensBlock line)
    {text : String}
    (plain : StartsPlainly text) :
    Suite 0 1 [line, indentation ++ text] :=
  Suite.block isIndent opens (Suite.of_startsPlainly plain).indented
    (List.cons_ne_nil _ _)

/-- The statements of an action are a suite of at most two levels. -/
theorem suite_action
    (action : Action String) :
    Suite 0 1 (action.statements .circuitPython) := by
  have starts {text : String} := @startsPlainly_of_head text
  cases action with
  | wait duration =>
      exact .of_startsPlainly
        (((starts 't' (by decide) rfl).append _).append _)
  | waitBetween least most =>
      have imported : Suite 0 1 ["import random"] :=
        .singleton (by decide) (by decide)
      exact imported.append (.of_startsPlainly
        (((((starts 't' (by decide) rfl).append _).append _).append
          _).append _))
  | typeText text | press symbol | release symbol =>
      exact .of_startsPlainly
        (((starts 'k' (by decide) rfl).append _).append _)
  | print text =>
      exact .of_startsPlainly
        (((starts 'p' (by decide) rfl).append _).append _)
  | recordSafeMode enabled =>
      cases enabled <;>
        exact .of_startsPlainly (starts 's' (by decide) rfl)
  | idle =>
      exact .of_startsPlainly (starts 'p' (by decide) rfl)
  | branchAlways condition =>
      have body :
          "    pass  # Placeholder for condition: " ++ condition =
            indentation ++
              ("pass  # Placeholder for condition: " ++ condition) := by
        rw [← String.append_assoc]
        rfl
      rw [Action.statements, body]
      exact suite_of_condition (by decide) (by decide)
        ((starts 'p' (by decide) rfl).append _)
  | loopOnce condition =>
      have body :
          "    break  # Placeholder for condition: " ++ condition =
            indentation ++
              ("break  # Placeholder for condition: " ++ condition) := by
        rw [← String.append_assoc]
        rfl
      rw [Action.statements, body]
      exact suite_of_condition (by decide) (by decide)
        ((starts 'b' (by decide) rfl).append _)

/-- The statements of a step are a suite of at most two levels. -/
theorem suite_step
    (verbose : Bool)
    {step : Step String}
    (wellNoted : step.WellNoted) :
    Suite 0 1 (step.statements .circuitPython verbose) := by
  rcases Step.statements_eq_or_plain .circuitPython verbose wellNoted with
    same | ⟨text, shape, plain⟩
  · rw [same]
    exact suite_action step.action
  · rw [shape]
    exact .of_startsPlainly plain

/-- A counted loop opens a block. -/
theorem opensBlock_loop
    (count : Nat) :
    indent ("for _ in range(" ++ count.repr ++ "):") = 0 ∧
      opensBlock ("for _ in range(" ++ count.repr ++ "):") := by
  have starts :
      "for _ in range(".toList <+:
        "for _ in range(".toList ++ count.repr.toList ++ "):".toList := by
    rw [List.append_assoc]
    exact List.prefix_append _ _
  have ends :
      "):".toList <:+
        "for _ in range(".toList ++ count.repr.toList ++ "):".toList :=
    List.suffix_append _ _
  rw [← List.isPrefixOf_iff_prefix] at starts
  rw [← List.isSuffixOf_iff_suffix] at ends
  constructor
  · simp [indent]
  · have undented :
        ("for _ in range(" ++ count.repr ++ "):").toList.dropWhile
            (· == ' ') =
          "for _ in range(".toList ++ count.repr.toList ++
            "):".toList := by
      simp
    simp only [opensBlock, undented, starts, ends, Bool.and_self,
      Bool.or_true]

/-- The statements of a deed are a suite of at most three levels. -/
theorem suite_deed
    (verbose : Bool)
    {deed : Deed String}
    (wellFormed : deed.WellFormed) :
    Suite 0 2 (deed.statements .circuitPython verbose) := by
  cases deed with
  | once step =>
      exact (suite_step verbose wellFormed).higher
  | loop count steps =>
      obtain ⟨notEmpty, wellNoted⟩ := wellFormed
      have body :
          Suite 0 1
            (steps.flatMap (Step.statements .circuitPython verbose)) :=
        Suite.flatMap fun step isStep =>
          suite_step verbose (wellNoted step isStep)
      have bodyNotEmpty :
          steps.flatMap (Step.statements .circuitPython verbose) ≠ [] := by
        obtain ⟨step, rest, rfl⟩ := List.exists_cons_of_ne_nil notEmpty
        rw [List.flatMap_cons]
        exact List.append_ne_nil_of_left_ne_nil
          (step.statements_ne_nil .circuitPython verbose) _
      exact Suite.block (opensBlock_loop count).1 (opensBlock_loop count).2
        body.indented (by simpa using bodyNotEmpty)

/-- The statements of deeds in a body are a suite of at most three levels. -/
theorem suite_bodyStatements
    (symbol : KeyName → String)
    (verbose : Bool)
    {deeds : List (Deed KeyName)}
    (wellFormed : ∀ deed ∈ deeds, deed.WellFormed) :
    Suite 4 2
      (Deed.bodyStatements .circuitPython symbol verbose deeds) :=
  Suite.indented (Suite.flatMap fun deed isDeed =>
    suite_deed verbose ((wellFormed deed isDeed).mapKey symbol))

end CircuitPython

end Keystroke
