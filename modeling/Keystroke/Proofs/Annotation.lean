import Keystroke.Proofs.Stateless
import Keystroke.Proofs.Words

namespace Keystroke

/-!
# Comments and notes in a verbose program

A verbose program is a quiet one with comments: on lines of their own, and as
notes behind statements.  `Elaborates` says this of the lines of a body.  It
holds of the quiet and the verbose lines of every plan, because only steps whose
statement stands on one line carry a note.
-/

namespace Family

/-- The sign that starts a comment. -/
def marker
    (family : Family) :
    String :=
  Text.trimEnd (family.comment "")

/-- Whether there is nothing but a comment on a line. -/
def isComment
    (family : Family)
    (line : String) :
    Bool :=
  family.marker.toList.isPrefixOf (Text.trimStart line).toList

/-- A comment starts with a sign that is neither a letter nor blank. -/
theorem exists_marker_start
    (family : Family) :
    ∃ sign others,
      family.marker.toList = sign :: others ∧
        sign.isAlpha = false ∧
        Text.isSpace sign = false := by
  cases family with
  | circuitPython =>
      exact ⟨'#', [], by decide, by decide, by decide⟩
  | arduino =>
      exact ⟨'/', ['/'], by decide, by decide, by decide⟩

/-- A line that starts with a letter after its indentation is no comment. -/
theorem isComment_of_letter
    (family : Family)
    {line : String}
    {blanks : List Char}
    {letter : Char}
    {rest : List Char}
    (shape : line.toList = blanks ++ letter :: rest)
    (areBlank : ∀ character ∈ blanks, Text.isSpace character)
    (isLetter : letter.isAlpha) :
    family.isComment line = false := by
  have notBlank : Text.isSpace letter = false :=
    Text.isSpace_of_isAlphanum (by simp [Char.isAlphanum, isLetter])
  have trimmed :
      (Text.trimStart line).toList = letter :: rest := by
    simp [Text.trimStart, shape, List.dropWhile_append_of_pos areBlank,
      notBlank]
  obtain ⟨sign, others, markerShape, notLetter, _⟩ :=
    exists_marker_start family
  have different : (sign == letter) = false := by
    rw [beq_eq_false_iff_ne]
    intro same
    rw [same, isLetter] at notLetter
    cases notLetter
  rw [isComment, trimmed, markerShape]
  simp [List.isPrefixOf, different]

/-- An indentation of any depth is blank. -/
theorem isSpace_of_mem_indentation
    (family : Family)
    {depth : Nat}
    {character : Char}
    (member :
      character ∈
        (String.join (List.replicate depth family.indentation)).toList) :
    Text.isSpace character := by
  have blank : family.indentation.toList.all Text.isSpace := by
    cases family <;> decide
  simp only [String.toList_join, List.mem_flatMap] at member
  obtain ⟨_, isIndentation, characterMember⟩ := member
  rw [List.eq_of_mem_replicate isIndentation] at characterMember
  exact List.all_eq_true.mp blank character characterMember

end Family

/--
How the lines of a body change if the program becomes verbose: comments are
inserted, statements get a note, and every other line stays as it is.
-/
inductive Elaborates
    (family : Family) :
    List String → List String → Prop where
  | nil :
      Elaborates family [] []
  | keep
      (line : String)
      {quiet verbose : List String} :
      Elaborates family quiet verbose →
      Elaborates family (line :: quiet) (line :: verbose)
  | insert
      (text : String)
      {quiet verbose : List String} :
      Elaborates family quiet verbose →
      Elaborates family quiet
        ((family.indentation ++ family.comment text) :: verbose)
  | annotate
      (statement note : String)
      {quiet verbose : List String} :
      family.isComment statement = false →
      Elaborates family quiet verbose →
      Elaborates family (statement :: quiet)
        (family.annotate statement note :: verbose)

namespace Elaborates

variable
  {family : Family}

/-- Lines elaborate themselves. -/
theorem refl
    (lines : List String) :
    Elaborates family lines lines := by
  induction lines with
  | nil =>
      exact .nil
  | cons line rest inductionHypothesis =>
      exact .keep line inductionHypothesis

/-- Elaborations stand one after the other. -/
theorem append
    {quiet verbose laterQuiet laterVerbose : List String}
    (first : Elaborates family quiet verbose)
    (second : Elaborates family laterQuiet laterVerbose) :
    Elaborates family (quiet ++ laterQuiet) (verbose ++ laterVerbose) := by
  induction first with
  | nil =>
      exact second
  | keep line _ inductionHypothesis =>
      exact .keep line inductionHypothesis
  | insert text _ inductionHypothesis =>
      exact .insert text inductionHypothesis
  | annotate statement note isStatement _ inductionHypothesis =>
      exact .annotate statement note isStatement inductionHypothesis

end Elaborates

/-- A line of code that a verbose program annotates, or leaves as it is. -/
inductive Annotated
    (family : Family) :
    CodeLine → CodeLine → Prop where
  | same
      (line : CodeLine) :
      Annotated family line line
  | noted
      {line : CodeLine}
      {letter : Char}
      {rest : List Char}
      (note : String) :
      line.isStatement →
      line.text.toList = letter :: rest →
      letter.isAlpha →
      Annotated family line
        { line with text := family.annotate line.text note }

namespace Annotated

variable
  {family : Family}
  {quiet verbose : CodeLine}

/-- A line one level deeper is annotated like the line. -/
theorem nested
    (annotated : Annotated family quiet verbose) :
    Annotated family quiet.nested verbose.nested := by
  cases annotated with
  | same =>
      exact .same _
  | noted note isStatement shape isLetter =>
      exact .noted note isStatement shape isLetter

/-- A note does not make a statement of a comment, or the other way round. -/
theorem isStatement_iff
    (annotated : Annotated family quiet verbose) :
    quiet.isStatement ↔ verbose.isStatement := by
  cases annotated with
  | same =>
      exact Iff.rfl
  | noted =>
      exact Iff.rfl

/-- Annotated lines of code are elaborated when they are written. -/
theorem elaborates
    {quietLines verboseLines : List CodeLine}
    (annotated :
      List.Forall₂ (Annotated family) quietLines verboseLines) :
    Elaborates family (quietLines.map family.bodyLine)
      (verboseLines.map family.bodyLine) := by
  induction annotated with
  | nil =>
      exact .nil
  | @cons quietLine verboseLine _ _ first _ inductionHypothesis =>
      cases first with
      | same =>
          exact .keep _ inductionHypothesis
      | @noted letter rest note isStatement shape isLetter =>
          have lineShape :
              (family.bodyLine quietLine).toList =
                (String.join (List.replicate (quietLine.depth + 1)
                  family.indentation)).toList ++ letter :: rest := by
            simp [Family.bodyLine, CodeLine.nested, CodeLine.render, shape]
          have noComment :
              family.isComment (family.bodyLine quietLine) = false :=
            family.isComment_of_letter lineShape
              (fun _ member => family.isSpace_of_mem_indentation member)
              isLetter
          have written :
              family.bodyLine
                  { quietLine with
                    text := family.annotate quietLine.text note } =
                family.annotate (family.bodyLine quietLine) note := by
            simp [Family.bodyLine, CodeLine.nested, CodeLine.render,
              Family.annotate, String.append_assoc]
          rw [List.map_cons, List.map_cons, written]
          exact .annotate _ note noComment inductionHypothesis

end Annotated

namespace Action

variable
  {KeyType Symbol Fault : Type}

/-- The actions that a note may stand behind. -/
def takesNote :
    Action KeyType → Bool
  | .wait _ | .typeText _ | .press _ | .release _ => true
  | _ => false

/-- An action that takes a note is one statement that starts with a letter. -/
theorem exists_statement_of_takesNote
    (family : Family)
    {action : Action String}
    (takes : action.takesNote) :
    ∃ text letter,
      family.actionLines action = [.statement text] ∧
        letter.isAlpha ∧
        ∃ rest, text.toList = letter :: rest := by
  cases family with
  | circuitPython =>
      cases action with
      | wait duration =>
          exact ⟨_, 't', rfl, by decide, by simp [CircuitPython.wait]⟩
      | typeText text =>
          exact ⟨_, 'k', rfl, by decide, by simp⟩
      | press symbol =>
          exact ⟨_, 'k', rfl, by decide, by simp⟩
      | release symbol =>
          exact ⟨_, 'k', rfl, by decide, by simp⟩
      | _ =>
          cases takes
  | arduino =>
      cases action with
      | wait duration =>
          exact ⟨_, 'd', rfl, by decide, by simp [Arduino.wait]⟩
      | typeText text =>
          exact ⟨_, 'K', rfl, by decide, by simp⟩
      | press symbol =>
          exact ⟨_, 'K', rfl, by decide, by simp⟩
      | release symbol =>
          exact ⟨_, 'K', rfl, by decide, by simp⟩
      | _ =>
          cases takes

/-- Resolving the key of an action does not change what may stand behind it. -/
theorem takesNote_of_resolve
    {lookup : KeyType → Except Fault Symbol}
    {action : Action KeyType}
    {resolved : Action Symbol}
    (resolves : action.resolve lookup = .ok resolved) :
    resolved.takesNote = action.takesNote := by
  cases action with
  | press key | release key =>
      obtain ⟨symbol, _, shape⟩ := Outcome.map_eq_ok.mp resolves
      subst shape
      rfl
  | _ =>
      cases resolves
      rfl

end Action

/-- A note stands only behind an action that takes one. -/
def Step.WellNoted
    {KeyType : Type}
    (step : Step KeyType) :
    Prop :=
  step.note? ≠ none → step.action.takesNote

namespace Step

variable
  {KeyType Symbol Fault : Type}

/-- A step without a note is well noted. -/
theorem wellNoted_plain
    (action : Action KeyType) :
    (plain action).WellNoted := by
  intro noted
  exact absurd rfl noted

/-- A step with a note is well noted if its action takes one. -/
theorem wellNoted_noted
    {action : Action KeyType}
    (takes : action.takesNote)
    (note : String) :
    (Step.noted action note).WellNoted :=
  fun _ => takes

/-- Resolving the key of a step keeps its note in place. -/
theorem WellNoted.resolve
    {lookup : KeyType → Except Fault Symbol}
    {step : Step KeyType}
    {resolved : Step Symbol}
    (wellNoted : step.WellNoted)
    (resolves : step.resolve lookup = .ok resolved) :
    resolved.WellNoted := by
  obtain ⟨action, actionResolves, shape⟩ := Outcome.map_eq_ok.mp resolves
  subst shape
  intro noted
  rw [Action.takesNote_of_resolve actionResolves]
  exact wellNoted noted

/-- The lines of a step get its note in a verbose program. -/
theorem lines_annotated
    (family : Family)
    {step : Step String}
    (wellNoted : step.WellNoted) :
    List.Forall₂ (Annotated family)
      (step.lines family false) (step.lines family true) := by
  cases note : step.note? with
  | none =>
      have sameLines :
          step.lines family true = step.lines family false := by
        simp [lines, note]
      rw [sameLines]
      exact List.forall₂_same.mpr fun line _ => .same line
  | some text =>
      obtain ⟨statement, letter, actionShape, isLetter, rest, shape⟩ :=
        Action.exists_statement_of_takesNote family
          (wellNoted (by simp [note]))
      simp only [lines, note, actionShape, List.map_cons, List.map_nil]
      exact .cons (.noted text rfl shape isLetter) .nil

/-- The lines of several steps get their notes in a verbose program. -/
theorem lines_annotated_flatMap
    (family : Family)
    {steps : List (Step String)}
    (wellNoted : ∀ step ∈ steps, step.WellNoted) :
    List.Forall₂ (Annotated family)
      (steps.flatMap (lines family false))
      (steps.flatMap (lines family true)) := by
  induction steps with
  | nil =>
      exact .nil
  | cons step rest inductionHypothesis =>
      have first :=
        lines_annotated family (wellNoted step List.mem_cons_self)
      have others :=
        inductionHypothesis fun later member =>
          wellNoted later (List.mem_cons_of_mem step member)
      simpa only [List.flatMap_cons] using List.rel_append first others

end Step

namespace Entry

/-- The lines of an entry are elaborated in a verbose program. -/
theorem lines_elaborate
    (family : Family)
    {entry : Entry String}
    (wellNoted : ∀ step ∈ entry.allSteps, step.WellNoted) :
    Elaborates family
      ((entry.lines family false).map family.bodyLine)
      ((entry.lines family true).map family.bodyLine) := by
  cases entry with
  | remark text =>
      exact .refl _
  | aside text =>
      have inserted :
          (Entry.lines family true (.aside text)).map family.bodyLine =
            [family.indentation ++ family.comment text] := by
        simp [lines, Family.commentLine, Family.bodyLine_comment]
      rw [inserted]
      exact .insert text .nil
  | perform step =>
      exact Annotated.elaborates
        (Step.lines_annotated family (wellNoted step List.mem_cons_self))
  | loop count steps =>
      have stepLines :
          List.Forall₂ (Annotated family)
            (steps.flatMap (Step.lines family false))
            (steps.flatMap (Step.lines family true)) :=
        Step.lines_annotated_flatMap family wellNoted
      have bodyLines :
          List.Forall₂ (Annotated family)
            (((steps.flatMap (Step.lines family false)).filter
              CodeLine.isStatement).map CodeLine.nested)
            (((steps.flatMap (Step.lines family true)).filter
              CodeLine.isStatement).map CodeLine.nested) :=
        List.rel_map (fun _ _ annotated => annotated.nested)
          (List.rel_filter
            (fun _ _ annotated => annotated.isStatement_iff) stepLines)
      simp only [lines, List.map_append]
      exact ((Elaborates.refl _).append
        (Annotated.elaborates bodyLines)).append (.refl _)

end Entry

namespace Plan

/-- Every step of a plan is well noted. -/
def WellNoted
    {KeyType : Type}
    (plan : Plan KeyType) :
    Prop :=
  ∀ step ∈ plan.allSteps, step.WellNoted

/-- Resolving the keys of a plan keeps its notes in place. -/
theorem WellNoted.resolve
    {KeyType Symbol Fault : Type}
    {lookup : KeyType → Except Fault Symbol}
    {plan : Plan KeyType}
    {resolved : Plan Symbol}
    (wellNoted : plan.WellNoted)
    (resolves : plan.resolve lookup = .ok resolved) :
    resolved.WellNoted := by
  intro resolvedStep member
  obtain ⟨step, stepMember, stepResolves⟩ :=
    exists_step_of_resolve resolves member
  exact (wellNoted step stepMember).resolve stepResolves

/-- The lines of a plan are elaborated in a verbose program. -/
theorem lines_elaborate
    (family : Family)
    {plan : Plan String}
    (wellNoted : plan.WellNoted) :
    Elaborates family
      ((plan.lines family false).map family.bodyLine)
      ((plan.lines family true).map family.bodyLine) := by
  rcases plan with ⟨entries, change, notices⟩
  simp only [lines]
  simp only [WellNoted, allSteps] at wellNoted
  induction entries with
  | nil =>
      exact .nil
  | cons entry rest inductionHypothesis =>
      rw [List.flatMap_cons, List.forall_mem_append] at wellNoted
      have first := Entry.lines_elaborate family wellNoted.1
      have others := inductionHypothesis wellNoted.2
      simp only [List.flatMap_cons, List.map_append]
      exact first.append others

end Plan

namespace Command

/-- The keys of a chord are pressed and released with notes. -/
theorem wellNoted_chord
    (keys : List (KeyName × String)) :
    ∀ step ∈ chord keys, step.WellNoted := by
  intro step member
  rcases List.mem_append.mp member with presses | releases
  · obtain ⟨key, _, shape⟩ := List.mem_map.mp presses
    subst shape
    exact Step.wellNoted_noted rfl _
  · obtain ⟨key, _, shape⟩ := List.mem_map.mp releases
    subst shape
    exact Step.wellNoted_noted rfl _

/-- The plans of the list are well noted. -/
theorem Planned.wellNoted
    {pause : Text.Milliseconds}
    {command : Command}
    {plan : Plan KeyName}
    (planned : Planned pause command plan) :
    plan.WellNoted := by
  cases planned with
  | key =>
      rw [Plan.WellNoted, keyPlan, Plan.allSteps_ofSteps]
      exact wellNoted_chord _
  | combination =>
      rw [Plan.WellNoted, Plan.allSteps_ofSteps]
      exact wellNoted_chord _
  | delay | text =>
      intro step member
      rw [Plan.allSteps_ofSteps, List.mem_singleton] at member
      rw [member]
      exact Step.wellNoted_noted rfl _
  | pause =>
      intro step member
      have isWait := List.mem_singleton.mp member
      rw [isWait]
      exact Step.wellNoted_noted rfl _
  | safeModeOn | safeModeOff | attackModeKeyboard | attackModeStorage
  | attackModeOn | attackModeOff | attackModeOther | comment | defaultDelay
  | randomDelay | log | validate | branch | otherwise | endBranch | loop
  | endLoop | custom =>
      simp [Plan.WellNoted, Plan.allSteps, Entry.allSteps, Plan.ofEntries,
        switchPlan, customPlan, Step.wellNoted_plain]

/-- The plans for a device are well noted. -/
theorem planFor_wellNoted
    {device : Device}
    {pause : Text.Milliseconds}
    {previous? : Option Command}
    {command : Command}
    {plan : Plan String}
    (planned : command.planFor device pause previous? = .ok plan) :
    plan.WellNoted := by
  obtain ⟨named, namedPlan, resolves⟩ := planFor_eq_ok.mp planned
  refine Plan.WellNoted.resolve ?_ resolves
  rcases plan_eq_ok.mp namedPlan with direct | replayed
  · exact direct.wellNoted
  · cases replayed with
    | replay _ _ _ _ _ repeatedPlanned =>
        intro step member
        rw [Plan.allSteps_loop] at member
        rcases idle_or_mem_of_mem_repeatedSteps member with isIdle | inPlan
        · rw [isIdle]
          exact Step.wellNoted_plain .idle
        · exact repeatedPlanned.wellNoted step inPlan

end Command

end Keystroke
