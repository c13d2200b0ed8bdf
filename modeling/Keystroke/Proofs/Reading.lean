import Keystroke.Proofs.Lines
import Keystroke.Proofs.Outcome
import Keystroke.Script.Reading

namespace Keystroke

/-!
# What is read from a text

Reading goes through the lines of a text with a counter.  Here the visible lines
are taken from the text first, each with its number, and then every one of them
is read by itself.  So a script has one command for each visible line, in order
and with its number; the first line that no rule accepts ends the reading; and a
text that goes on after a line feed is read on from there.
-/

/-- What was read from the line of a command. -/
def Command.reading
    (command : Command) :
    Grammar.Reading where
  kind := command.kind
  parameters := command.parameters

/-- A command with a line's number, its text and what the grammar reads there. -/
structure Command.ReadAt
    (item : Nat × String)
    (command : Command) :
    Prop where
  line : command.line = item.1
  rawText : command.rawText = item.2
  accepted :
    ∃ rule,
      Grammar.matchLine? item.2 =
        some (rule, ⟨command.kind, command.parameters⟩)

/-- The command some lines further down. -/
def Command.shifted
    (lines : Nat)
    (command : Command) :
    Command :=
  { command with line := command.line + lines }

/-- The failure some lines further down, if it is one of reading. -/
def Failure.shifted
    (lines : Nat) :
    Failure → Failure
  | .script source line message => .script source (line + lines) message
  | other => other

namespace Script

/-- The trimmed lines that are not blank, where the first line has a number. -/
def visibleFrom
    (number : Nat)
    (lines : List String) :
    List (Nat × String) :=
  ((lines.zipIdx number).map fun (line, position) =>
      (position, Text.trim line)).filter
    fun (_, line) => line ≠ ""

/-- The trimmed lines of a text that are not blank, numbered from one. -/
def visibleLines
    (text : String) :
    List (Nat × String) :=
  visibleFrom 1 (Text.lines text)

/-- The trimmed lines of a text that are not blank. -/
def contents
    (text : String) :
    List String :=
  ((Text.lines text).map Text.trim).filter fun line => line ≠ ""

/-- Every visible line of the text is a command of the script, in order. -/
structure ReadsAll
    (text source : String)
    (script : Script) :
    Prop where
  commands :
    List.Forall₂ Command.ReadAt (visibleLines text) script.commands
  source_eq : script.source = source
  totalLines_eq : script.totalLines = (Text.lines text).length
  totalCommands_eq : script.totalCommands = (contents text).length

/-- A rule accepts the line, unless it is blank. -/
def Readable
    (line : String) :
    Prop :=
  Text.trim line ≠ "" → (Grammar.matchLine? (Text.trim line)).isSome

/-- The first of some lines that is visible and that no rule accepts. -/
structure FirstRefused
    (lines : List String)
    (index : Nat)
    (line : String) :
    Prop where
  atIndex : lines[index]? = some line
  refused : ¬ Readable line
  least :
    ∀ before, before < index →
      ∀ earlier, lines[before]? = some earlier → Readable earlier

/-- The failure of a line that no rule accepts. -/
def refusal
    (source : String)
    (number : Nat)
    (line : String) :
    Failure :=
  .script source number ("Unknown command: " ++ line)

/--
What is read from two texts, one after the other.  The first failure decides,
and what is read from the second text stands below the lines of the first.
-/
def joined
    (first second : Except Failure Script) :
    Except Failure Script := do
  let above ← first
  let below ← second.mapError (Failure.shifted above.totalLines)
  pure
    { commands :=
        above.commands ++
          below.commands.map (Command.shifted above.totalLines)
      source := above.source
      totalLines := above.totalLines + below.totalLines }

/-! ## Visible lines -/

/-- A first line is visible if it is not blank, and the others follow. -/
theorem visibleFrom_cons
    (number : Nat)
    (line : String)
    (rest : List String) :
    visibleFrom number (line :: rest) =
      if Text.trim line = "" then
        visibleFrom (number + 1) rest
      else
        (number, Text.trim line) :: visibleFrom (number + 1) rest := by
  simp only [visibleFrom, List.zipIdx_cons, List.map_cons,
    List.filter_cons]
  by_cases blank : Text.trim line = "" <;> simp [blank]

/-- The visible lines of lines that stand one after the other. -/
theorem visibleFrom_append
    (number : Nat)
    (first second : List String) :
    visibleFrom number (first ++ second) =
      visibleFrom number first ++
        visibleFrom (number + first.length) second := by
  simp [visibleFrom, List.zipIdx_append]

/-- The visible lines some lines further down. -/
theorem visibleFrom_add
    (number offset : Nat)
    (lines : List String) :
    visibleFrom (number + offset) lines =
      (visibleFrom number lines).map fun item =>
        (item.1 + offset, item.2) := by
  induction lines generalizing number with
  | nil =>
      rfl
  | cons line rest inductionHypothesis =>
      have continued := inductionHypothesis (number + 1)
      rw [Nat.add_right_comm] at continued
      rw [visibleFrom_cons, visibleFrom_cons, continued]
      split <;> rfl

/-- The visible lines without their numbers. -/
theorem map_snd_visibleLines
    (text : String) :
    (visibleLines text).map Prod.snd = contents text := by
  have forget
      (number : Nat)
      (lines : List String) :
      (visibleFrom number lines).map Prod.snd =
        (lines.map Text.trim).filter fun line => line ≠ "" := by
    induction lines generalizing number with
    | nil =>
        rfl
    | cons line rest inductionHypothesis =>
        have continued := inductionHypothesis (number + 1)
        rw [visibleFrom_cons, List.map_cons, List.filter_cons, ← continued]
        by_cases blank : Text.trim line = "" <;> simp [blank]
  exact forget 1 (Text.lines text)

/-! ## Reading line by line -/

/-- A line is read as a command with its number, its text and its reading. -/
theorem readLine_eq_ok
    {source : String}
    {item : Nat × String}
    {command : Command} :
    (readLine source item.1 item.2).outcome = .ok command ↔
      command.ReadAt item := by
  unfold readLine
  split
  · rename_i none
    constructor
    · intro impossible
      cases impossible
    · rintro ⟨_, _, rule, found⟩
      rw [none] at found
      cases found
  · rename_i rule reading found
    constructor
    · intro done
      cases done
      exact ⟨rfl, rfl, rule, found⟩
    · rintro ⟨isLine, isText, otherRule, otherFound⟩
      rw [found] at otherFound
      cases otherFound
      rcases command with ⟨kind, line, rawText, parameters⟩
      cases isLine
      cases isText
      rfl

/-- A line that no rule accepts is refused with its number and its text. -/
theorem readLine_eq_error
    {source text : String}
    {number : Nat}
    {failure : Failure} :
    (readLine source number text).outcome = .error failure ↔
      Grammar.matchLine? text = none ∧
        failure = refusal source number text := by
  unfold readLine
  split
  · rename_i none
    constructor
    · intro failed
      cases failed
      exact ⟨none, rfl⟩
    · rintro ⟨_, rfl⟩
      rfl
  · rename_i rule reading found
    constructor
    · intro impossible
      cases impossible
    · rintro ⟨none, _⟩
      rw [found] at none
      cases none

/-- A line is read if a rule accepts it. -/
theorem succeeds_readLine
    {source text : String}
    {number : Nat} :
    Outcome.Succeeds (readLine source number text).outcome ↔
      (Grammar.matchLine? text).isSome := by
  rw [← not_iff_not, Outcome.not_succeeds, Option.not_isSome_iff_eq_none]
  simp [readLine_eq_error]

/-- Some lines further down the same is read, further down. -/
theorem readLine_add
    (source text : String)
    (number offset : Nat) :
    (readLine source (number + offset) text).outcome =
      ((readLine source number text).outcome.map
        (Command.shifted offset)).mapError (Failure.shifted offset) := by
  unfold readLine
  split <;> rfl

/-- One step of reading: skip a blank line, or read the line and go on. -/
theorem readLines_cons_outcome
    (source : String)
    (number : Nat)
    (line : String)
    (rest : List String) :
    (readLines source number (line :: rest)).outcome =
      if Text.trim line = "" then
        (readLines source (number + 1) rest).outcome
      else
        (readLine source number (Text.trim line)).outcome >>= fun command =>
          (readLines source (number + 1) rest).outcome.map (command :: ·) := by
  simp only [readLines, String.isEmpty_iff]
  split
  · rfl
  · rw [Run.outcome_bind]
    rfl

/-- Numbered lines, each read by itself, in order. -/
def readItems
    (source : String)
    (items : List (Nat × String)) :
    Except Failure (List Command) :=
  items.mapM fun item => (readLine source item.1 item.2).outcome

/-- A first line is read, and then the others. -/
theorem readItems_cons
    (source : String)
    (item : Nat × String)
    (rest : List (Nat × String)) :
    readItems source (item :: rest) =
      (readLine source item.1 item.2).outcome >>= fun command =>
        (readItems source rest).map (command :: ·) := by
  rw [readItems, List.mapM_cons]
  rfl

/-- The loop of reading: every visible line is read by itself, in order. -/
theorem readLines_outcome
    (source : String)
    (number : Nat)
    (lines : List String) :
    (readLines source number lines).outcome =
      readItems source (visibleFrom number lines) := by
  induction lines generalizing number with
  | nil =>
      rfl
  | cons line rest inductionHypothesis =>
      rw [readLines_cons_outcome, visibleFrom_cons, inductionHypothesis]
      split
      · rfl
      · rw [readItems_cons]

/-- Reading a text reads its visible lines and counts all lines. -/
theorem read_outcome
    (text source : String) :
    (read text source).outcome =
      (readItems source (visibleLines text)).map fun commands =>
        { commands
          source
          totalLines := (Text.lines text).length } := by
  simp only [read, Run.outcome_bind, Run.outcome_log, Run.outcome_pure,
    readLines_outcome]
  rw [visibleLines]
  cases readItems source (visibleFrom 1 (Text.lines text)) <;> rfl

/-- Reading succeeds if every line is blank or accepted by a rule. -/
theorem succeeds_read_iff
    {text source : String} :
    Outcome.Succeeds (read text source).outcome ↔
      ∀ line ∈ Text.lines text, Readable line := by
  have visible :
      (∀ item ∈ visibleLines text, (Grammar.matchLine? item.2).isSome) ↔
        ∀ line ∈ contents text, (Grammar.matchLine? line).isSome := by
    rw [← map_snd_visibleLines, List.forall_mem_map]
  rw [read_outcome, Outcome.succeeds_map, readItems, Outcome.succeeds_mapM]
  simp only [succeeds_readLine, visible, contents, List.mem_filter,
    List.mem_map, decide_eq_true_eq, Readable]
  constructor
  · intro accepted line member notBlank
    exact accepted (Text.trim line) ⟨⟨line, member, rfl⟩, notBlank⟩
  · rintro accepted _ ⟨⟨line, member, rfl⟩, notBlank⟩
    exact accepted line member notBlank

/-- A script that is read has one command for every visible line. -/
theorem readsAll_of_read
    {text source : String}
    {script : Script}
    (accepted : (read text source).outcome = .ok script) :
    ReadsAll text source script := by
  rw [read_outcome, Outcome.map_eq_ok] at accepted
  obtain ⟨commands, done, rfl⟩ := accepted
  have related :
      List.Forall₂ Command.ReadAt (visibleLines text) commands :=
    (Outcome.mapM_eq_ok.mp done).imp fun _ _ => readLine_eq_ok.mp
  refine ⟨related, rfl, rfl, ?_⟩
  rw [← map_snd_visibleLines, List.length_map]
  exact related.length_eq.symm

/-! ## The first line that is refused -/

/-- A readable line in front moves the first refused line down. -/
theorem FirstRefused.cons
    {lines : List String}
    {index : Nat}
    {line first : String}
    (refused : FirstRefused lines index line)
    (readable : Readable first) :
    FirstRefused (first :: lines) (index + 1) line where
  atIndex := refused.atIndex
  refused := refused.refused
  least := by
    intro before isBefore earlier atBefore
    cases before with
    | zero =>
        cases atBefore
        exact readable
    | succ previous =>
        exact refused.least previous (by omega) earlier atBefore

/-- Lines that are not all read have a first one that is refused. -/
theorem exists_firstRefused_of_readLines
    {source : String}
    {number : Nat}
    {lines : List String}
    {failure : Failure}
    (failed : (readLines source number lines).outcome = .error failure) :
    ∃ index line,
      FirstRefused lines index line ∧
        failure = refusal source (number + index) (Text.trim line) := by
  induction lines generalizing number with
  | nil =>
      cases failed
  | cons line rest inductionHypothesis =>
      have later
          (readable : Readable line)
          (restFailed :
            (readLines source (number + 1) rest).outcome = .error failure) :
          ∃ index other,
            FirstRefused (line :: rest) index other ∧
              failure = refusal source (number + index) (Text.trim other) := by
        obtain ⟨index, other, refused, isFailure⟩ :=
          inductionHypothesis restFailed
        refine ⟨index + 1, other, refused.cons readable, ?_⟩
        rw [isFailure, Nat.add_right_comm, Nat.add_assoc]
      rw [readLines_cons_outcome] at failed
      split at failed
      · rename_i blank
        exact later (fun visible => absurd blank visible) failed
      · rename_i visible
        cases atLine : (readLine source number (Text.trim line)).outcome with
        | error found =>
            rw [atLine] at failed
            cases failed
            obtain ⟨none, rfl⟩ := readLine_eq_error.mp atLine
            refine ⟨0, line, ⟨rfl, ?_, by omega⟩, rfl⟩
            intro readable
            have isSome := readable visible
            rw [none] at isSome
            cases isSome
        | ok command =>
            have accepted :
                Outcome.Succeeds
                  (readLine source number (Text.trim line)).outcome :=
              ⟨command, atLine⟩
            rw [atLine] at failed
            exact later (fun _ => succeeds_readLine.mp accepted)
              (Outcome.eq_error_of_map failed)

/-- A text that is not read fails at its first line that is refused. -/
theorem exists_firstRefused_of_read
    {text source : String}
    {failure : Failure}
    (failed : (read text source).outcome = .error failure) :
    ∃ index line,
      FirstRefused (Text.lines text) index line ∧
        failure = refusal source (index + 1) (Text.trim line) := by
  have inLines :
      (readLines source 1 (Text.lines text)).outcome = .error failure := by
    rw [read_outcome, visibleLines, ← readLines_outcome] at failed
    exact Outcome.eq_error_of_map failed
  obtain ⟨index, line, refused, isFailure⟩ :=
    exists_firstRefused_of_readLines inLines
  exact ⟨index, line, refused, by rw [isFailure, Nat.add_comm]⟩

/-! ## Texts that stand one after the other -/

/-- Visible lines further down are read as the same commands, further down. -/
theorem readItems_add
    (source : String)
    (offset : Nat)
    (items : List (Nat × String)) :
    readItems source (items.map fun item => (item.1 + offset, item.2)) =
      ((readItems source items).map
        (List.map (Command.shifted offset))).mapError
          (Failure.shifted offset) := by
  induction items with
  | nil =>
      rfl
  | cons item rest inductionHypothesis =>
      rw [List.map_cons, readItems_cons, readItems_cons, readLine_add,
        inductionHypothesis]
      cases (readLine source item.1 item.2).outcome with
      | error failure =>
          rfl
      | ok command =>
          cases readItems source rest <;> rfl

/-- Lines that follow others are read after them. -/
theorem readItems_append
    (source : String)
    (first second : List (Nat × String)) :
    readItems source (first ++ second) = (do
      let above ← readItems source first
      let below ← readItems source second
      pure (above ++ below)) :=
  List.mapM_append

/-- A text that goes on after a line feed is read on from there. -/
theorem read_append
    (first second source : String) :
    (read (first ++ "\n" ++ second) source).outcome =
      joined (read first source).outcome (read second source).outcome := by
  simp only [read_outcome, visibleLines, Text.lines_append,
    visibleFrom_append, visibleFrom_add, readItems_append,
    readItems_add, List.length_append]
  cases readItems source (visibleFrom 1 (Text.lines first)) with
  | error failure =>
      rfl
  | ok above =>
      cases readItems source (visibleFrom 1 (Text.lines second)) <;> rfl

/--
Reading loses, invents and reorders nothing.  A text is read if every line is
blank or accepted by a rule, and then every visible line is a command with its
number, in order.  Otherwise the first line that is refused is reported.  So a
text that goes on after a line feed is read as the two texts one after the
other.
-/
theorem read_keeps_every_line
    (text source : String) :
    (Outcome.Succeeds (read text source).outcome ↔
        ∀ line ∈ Text.lines text, Readable line) ∧
      (∀ script,
        (read text source).outcome = .ok script →
        ReadsAll text source script) ∧
      (∀ failure,
        (read text source).outcome = .error failure →
        ∃ index line,
          FirstRefused (Text.lines text) index line ∧
            failure = refusal source (index + 1) (Text.trim line)) ∧
      ∀ more,
        (read (text ++ "\n" ++ more) source).outcome =
          joined (read text source).outcome (read more source).outcome := by
  refine ⟨succeeds_read_iff, ?_, ?_, ?_⟩
  · intro script accepted
    exact readsAll_of_read accepted
  · intro failure failed
    exact exists_firstRefused_of_read failed
  · intro more
    exact read_append text more source

end Script

end Keystroke
