import Keystroke.Proofs.BothFamilies

namespace Keystroke

/-!
# No key stays pressed

A program presses and releases keys.  The keys that are held are kept on a
stack, and a release has to undo the latest press.  A combination presses its
keys and releases them in the opposite order, and everything else leaves keys
alone, so that no key is held between two commands, however often a loop runs.
-/

/-! ## Strokes and the keys that they leave held -/

/-- A key goes down or up. -/
inductive Stroke
    (KeyType : Type) where
  | press (key : KeyType)
  | release (key : KeyType)
  deriving Repr, DecidableEq

namespace Stroke

variable
  {KeyType : Type}
  [DecidableEq KeyType]

/--
The keys that are held after some strokes, the latest first.  There are none if
a release does not undo the latest press that was not yet undone.
-/
def heldAfter :
    List KeyType → List (Stroke KeyType) → Option (List KeyType)
  | held, [] => some held
  | held, .press key :: rest => heldAfter (key :: held) rest
  | latest :: held, .release key :: rest =>
      if latest = key then heldAfter held rest else none
  | [], .release _ :: _ => none

/-- The strokes undo all that they press, whatever was held before. -/
def Balanced
    (strokes : List (Stroke KeyType)) :
    Prop :=
  ∀ held, heldAfter held strokes = some held

/-- Strokes that stand one after the other. -/
theorem heldAfter_append
    (held : List KeyType)
    (first second : List (Stroke KeyType)) :
    heldAfter held (first ++ second) =
      (heldAfter held first).bind fun between => heldAfter between second := by
  fun_induction heldAfter held first with
  | case1 =>
      rfl
  | case2 held key rest inductionHypothesis =>
      exact inductionHypothesis
  | case3 held rest latest inductionHypothesis =>
      simp only [List.cons_append, heldAfter, ↓reduceIte,
        inductionHypothesis]
  | case4 held key rest latest different =>
      simp only [List.cons_append, heldAfter, different, ↓reduceIte,
        Option.bind_none]
  | case5 =>
      rfl

/-- No stroke leaves the keys as they are. -/
theorem balanced_nil :
    Balanced ([] : List (Stroke KeyType)) :=
  fun _ => rfl

/-- Balanced strokes may stand one after the other. -/
theorem Balanced.append
    {first second : List (Stroke KeyType)}
    (firstBalanced : Balanced first)
    (secondBalanced : Balanced second) :
    Balanced (first ++ second) := by
  intro held
  rw [heldAfter_append, firstBalanced held]
  exact secondBalanced held

/-- Balanced strokes may stand between a press and the release of its key. -/
theorem Balanced.enclose
    {strokes : List (Stroke KeyType)}
    (balanced : Balanced strokes)
    (key : KeyType) :
    Balanced (.press key :: strokes ++ [.release key]) := by
  intro held
  rw [heldAfter_append, heldAfter, balanced (key :: held)]
  simp [heldAfter]

/-- Parts that are balanced are balanced together. -/
theorem balanced_flatMap
    {Part : Type}
    {strokesOf : Part → List (Stroke KeyType)}
    {parts : List Part}
    (balanced : ∀ part ∈ parts, Balanced (strokesOf part)) :
    Balanced (parts.flatMap strokesOf) := by
  induction parts with
  | nil =>
      exact balanced_nil
  | cons part rest inductionHypothesis =>
      rw [List.flatMap_cons]
      exact (balanced part List.mem_cons_self).append
        (inductionHypothesis fun later member =>
          balanced later (List.mem_cons_of_mem part member))

/-- Balanced strokes are balanced however often they are repeated. -/
theorem Balanced.replicate
    {strokes : List (Stroke KeyType)}
    (balanced : Balanced strokes)
    (count : Nat) :
    Balanced (List.replicate count strokes).flatten := by
  induction count with
  | zero =>
      exact balanced_nil
  | succ count inductionHypothesis =>
      rw [List.replicate_succ, List.flatten_cons]
      exact balanced.append inductionHypothesis

/-- Keys that are pressed in order and released in the opposite order. -/
theorem balanced_chord
    (keys : List KeyType) :
    Balanced (keys.map .press ++ keys.reverse.map .release) := by
  -- The first key encloses the chord of the others.
  induction keys with
  | nil =>
      exact balanced_nil
  | cons key rest inductionHypothesis =>
      have enclosed := inductionHypothesis.enclose key
      simpa using enclosed

end Stroke

/-! ## The strokes of deeds -/

variable
  {KeyType : Type}

/-- The stroke of an action that is one. -/
def Action.stroke? :
    Action KeyType → Option (Stroke KeyType)
  | .press key => some (.press key)
  | .release key => some (.release key)
  | _ => none

/-- The strokes of some steps. -/
def Step.strokes
    (steps : List (Step KeyType)) :
    List (Stroke KeyType) :=
  steps.filterMap fun step => step.action.stroke?

/-- The strokes of a deed, with those of a loop as often as it runs. -/
def Deed.strokes :
    Deed KeyType → List (Stroke KeyType)
  | .once step => Step.strokes [step]
  | .loop count steps => (List.replicate count (Step.strokes steps)).flatten

/-- The strokes of steps that are performed once. -/
theorem Step.flatMap_strokes_once
    (steps : List (Step KeyType)) :
    (steps.flatMap fun step => (Deed.once step).strokes) =
      Step.strokes steps := by
  induction steps with
  | nil =>
      rfl
  | cons step rest inductionHypothesis =>
      rw [List.flatMap_cons, inductionHypothesis]
      simp only [Deed.strokes, strokes, List.filterMap_cons,
        List.filterMap_nil]
      cases step.action.stroke? <;> rfl

namespace Command

/-- The strokes of a chord are those of its keys. -/
theorem strokes_chord
    (symbol : KeyName → String)
    (keys : List (KeyName × String)) :
    Step.strokes ((chord keys).map (Step.mapKey symbol)) =
      (keys.map fun entry => symbol entry.1).map .press ++
        (keys.map fun entry => symbol entry.1).reverse.map .release := by
  simp only [Step.strokes, chord, List.map_append, List.map_map,
    List.filterMap_append, List.filterMap_map, ← List.map_reverse]
  exact congrArg₂ (· ++ ·) (congrFun List.filterMap_eq_map keys)
    (congrFun List.filterMap_eq_map keys.reverse)

/-- The steps of a command leave no key held. -/
theorem balanced_ownSteps
    (symbol : KeyName → String)
    (pause : Text.Milliseconds)
    (command : Command) :
    Stroke.Balanced
      (Step.strokes ((command.ownSteps pause).map (Step.mapKey symbol))) := by
  have chordBalanced
      (keys : List (KeyName × String)) :
      Stroke.Balanced
        (Step.strokes
          ((Plan.ofSteps (chord keys)).steps.map (Step.mapKey symbol))) := by
    rw [Plan.steps_ofSteps, strokes_chord]
    exact Stroke.balanced_chord _
  unfold ownSteps
  split
  · rename_i plan planned
    cases planned_of_directPlan planned with
    | key | combination =>
        exact chordBalanced _
    | _ =>
        exact Stroke.balanced_nil
  · exact Stroke.balanced_nil

/-- What a command does leaves no key held, a repetition included. -/
theorem balanced_deeds
    (symbol : KeyName → String)
    (pause : Text.Milliseconds)
    (previous? : Option Command)
    (command : Command) :
    Stroke.Balanced
      ((command.deeds pause previous?).flatMap fun deed =>
        (deed.mapKey symbol).strokes) := by
  unfold deeds
  split
  · have bodyBalanced :
        Stroke.Balanced
          (Step.strokes
            ((previous?.toList.flatMap (ownSteps pause)).map
              (Step.mapKey symbol))) := by
      cases previous? with
      | none =>
          exact Stroke.balanced_nil
      | some previous =>
          rw [Option.toList_some, List.flatMap_singleton]
          exact balanced_ownSteps symbol pause previous
    split
    · rw [List.flatMap_singleton]
      exact Stroke.balanced_nil.replicate _
    · rename_i body
      rw [body] at bodyBalanced
      rw [List.flatMap_singleton]
      exact bodyBalanced.replicate _
  · have ownBalanced := balanced_ownSteps symbol pause command
    rw [← Step.flatMap_strokes_once, List.flatMap_map] at ownBalanced
    rw [List.flatMap_map]
    exact ownBalanced

end Command

namespace Stateless

/-- The strokes of the commands before a boundary, with a device's symbols. -/
def strokesBefore
    (config : EncoderConfig)
    (device : Device)
    (commands : List Command)
    (boundary : Nat) :
    List (Stroke String) :=
  (commands.zipIdx.take boundary).flatMap fun item =>
    (deedsAt config.pause commands item.2 item.1).flatMap fun deed =>
      (deed.mapKey device.symbol).strokes

/-- The block of a command leaves no key held. -/
theorem balanced_deedsAt
    (symbol : KeyName → String)
    (pause : Text.Milliseconds)
    (commands : List Command)
    (index : Nat)
    (command : Command) :
    Stroke.Balanced
      ((deedsAt pause commands index command).flatMap fun deed =>
        (deed.mapKey symbol).strokes) := by
  rw [deedsAt, List.flatMap_append]
  refine (Command.balanced_deeds symbol pause _ command).append ?_
  unfold delayDeeds
  split
  · exact Stroke.balanced_nil
  · exact Stroke.balanced_nil

/-- No key is held at the boundary of a command. -/
theorem heldAfter_strokesBefore
    (config : EncoderConfig)
    (device : Device)
    (commands : List Command)
    (boundary : Nat) :
    Stroke.heldAfter [] (strokesBefore config device commands boundary) =
      some [] := by
  have balanced :
      Stroke.Balanced (strokesBefore config device commands boundary) :=
    Stroke.balanced_flatMap fun item _ =>
      balanced_deedsAt device.symbol config.pause commands item.2 item.1
  exact balanced []

end Stateless

/-! ## The block of a combination -/

namespace Stroke

/-- The stroke as an action. -/
def action :
    Stroke String → Action String
  | .press symbol => .press symbol
  | .release symbol => .release symbol

/-- The statement for a stroke. -/
def statement :
    Family → Stroke String → String
  | .circuitPython, .press symbol => "keyboard.press(" ++ symbol ++ ")"
  | .circuitPython, .release symbol => "keyboard.release(" ++ symbol ++ ")"
  | .arduino, .press symbol => "Keyboard.press(" ++ symbol ++ ");"
  | .arduino, .release symbol => "Keyboard.release(" ++ symbol ++ ");"

/-- The line of the body for a stroke, with its note in a verbose program. -/
def bodyLine
    (family : Family)
    (verbose : Bool)
    (note : String)
    (stroke : Stroke String) :
    String :=
  family.indentation ++
    if verbose then
      stroke.statement family ++ "  " ++ family.comment note
    else
      stroke.statement family

end Stroke

/-- The lines of a step that is a stroke. -/
theorem Step.lines_stroke
    (family : Family)
    (verbose : Bool)
    (note : String)
    (stroke : Stroke String) :
    (Step.lines family verbose (.noted stroke.action note)).map
        family.bodyLine =
      [stroke.bodyLine family verbose note] := by
  cases family <;> cases verbose <;> cases stroke <;>
    exact congrArg (fun line => [line]) (Family.bodyLine_statement _ _)

/-- The lines of a plan of steps only are those of its steps. -/
theorem Plan.lines_ofSteps
    (family : Family)
    (verbose : Bool)
    (steps : List (Step String)) :
    (ofSteps steps).lines family verbose =
      steps.flatMap (Step.lines family verbose) := by
  rw [lines, ofSteps, ofEntries, List.flatMap_map]
  rfl

/-- A plan of steps only has other keys if its steps have. -/
theorem Plan.mapKey_ofSteps
    {Symbol : Type}
    (rename : KeyType → Symbol)
    (steps : List (Step KeyType)) :
    (ofSteps steps).mapKey rename =
      ofSteps (steps.map (Step.mapKey rename)) := by
  simp only [mapKey, ofSteps, ofEntries, List.map_map]
  rfl

namespace Command

/-- The lines of a chord are presses in order and releases in reverse. -/
theorem lines_chord
    (family : Family)
    (verbose : Bool)
    (symbol : KeyName → String)
    (keys : List (KeyName × String)) :
    (((Plan.ofSteps (chord keys)).mapKey symbol).lines family verbose).map
        family.bodyLine =
      (keys.map fun entry =>
          Stroke.bodyLine family verbose ("Press " ++ entry.2)
            (.press (symbol entry.1))) ++
        keys.reverse.map fun entry =>
          Stroke.bodyLine family verbose ("Release " ++ entry.2)
            (.release (symbol entry.1)) := by
  rw [Plan.mapKey_ofSteps, Plan.lines_ofSteps, chord, List.map_append,
    List.flatMap_append, List.map_append, List.map_map, List.map_map,
    List.flatMap_map, List.flatMap_map, List.map_flatMap, List.map_flatMap,
    List.map_eq_flatMap, List.map_eq_flatMap]
  exact congrArg₂ (· ++ ·)
    (List.flatMap_congr fun entry _ =>
      Step.lines_stroke family verbose ("Press " ++ entry.2)
        (.press (symbol entry.1)))
    (List.flatMap_congr fun entry _ =>
      Step.lines_stroke family verbose ("Release " ++ entry.2)
        (.release (symbol entry.1)))

/-- A combination has the plan of a chord. -/
theorem eq_chord_of_combination
    {pause : Text.Milliseconds}
    {previous? : Option Command}
    {command : Command}
    {plan : Plan KeyName}
    (kind : command.kind = .combination)
    (planned : command.plan pause previous? = .ok plan) :
    plan =
      .ofSteps
        (chord (command.parameters.map fun token =>
          (KeyName.ofToken token, token))) := by
  have notReplay : ¬ command.kind = .replay := by
    rw [kind]
    decide
  rw [Command.plan, if_neg notReplay] at planned
  simp only [directPlan, kind, combinationPlan] at planned
  split at planned
  · cases planned
  · cases planned
    rfl

end Command

namespace Stateless

/--
The block of a combination, apart from its echo and the default delay: every
token is pressed in order and released in the opposite order.
-/
def combinationLines
    (device : Device)
    (verbose : Bool)
    (tokens : List String) :
    List String :=
  (tokens.map fun token =>
      Stroke.bodyLine device.family verbose ("Press " ++ token)
        (.press (device.symbol (.ofToken token)))) ++
    tokens.reverse.map fun token =>
      Stroke.bodyLine device.family verbose ("Release " ++ token)
        (.release (device.symbol (.ofToken token)))

/-- The block of a combination presses its tokens and releases them. -/
theorem block_combination
    {config : EncoderConfig}
    {device : Device}
    {commands : List Command}
    {index : Nat}
    {command : Command}
    {lines : List String}
    (kind : command.kind = .combination)
    (written : block config device commands index command = .ok lines) :
    lines =
      echoLines device.family
          (safeModeAfter config (commands.take index)) index command ++
        combinationLines device (safeModeAfter config (commands.take index))
          command.parameters ++
        delayLines device.family (delayAfter (commands.take index)) command ++
        [""] := by
  obtain ⟨plan, planned, rfl⟩ := block_eq_ok.mp written
  obtain ⟨named, namedPlan, rfl⟩ := Command.exists_plan_of_planFor planned
  rw [Command.eq_chord_of_combination kind namedPlan, Command.lines_chord,
    combinationLines, List.map_map, ← List.map_reverse, List.map_map]
  rfl

/-- A combination that is planned for a device has symbols for its tokens. -/
theorem symbolFor_token
    {device : Device}
    {pause : Text.Milliseconds}
    {previous? : Option Command}
    {command : Command}
    {plan : Plan String}
    (kind : command.kind = .combination)
    (planned : command.planFor device pause previous? = .ok plan) :
    ∀ token ∈ command.parameters,
      command.symbolFor device (.ofToken token) =
        .ok (device.symbol (.ofToken token)) := by
  intro token member
  obtain ⟨named, namedPlan, resolves⟩ := Command.planFor_eq_ok.mp planned
  rw [Command.eq_chord_of_combination kind namedPlan] at resolves
  have known := Command.succeeds_resolve_symbolFor.mp ⟨plan, resolves⟩
  have isKnown :=
    Command.usesOnly_chord.mp known _ (List.mem_map_of_mem member)
  have succeeds :
      Outcome.Succeeds (command.symbolFor device (.ofToken token)) :=
    Command.succeeds_symbolFor.mpr isKnown
  obtain ⟨found, isFound⟩ := succeeds
  rw [isFound, Command.eq_symbol_of_symbolFor isFound]

/--
The blocks of a program that leaves no key held.  They are written for the deeds
of the commands; the strokes of these deeds undo each other in the opposite
order, so that nothing is held at any boundary; and a combination is a block of
presses and releases with nothing in between.
-/
structure ReleasesKeys
    (config : EncoderConfig)
    (script : Script)
    (device : Device)
    (blocks : List (List String)) :
    Prop where
  performs :
    Performs config script device device.family blocks
  settled :
    ∀ boundary,
      Stroke.heldAfter []
          (strokesBefore config device script.commands boundary) =
        some []
  symbols :
    ∀ command ∈ script.commands,
      command.kind = .combination →
      ∀ token ∈ command.parameters,
        command.symbolFor device (.ofToken token) =
          .ok (device.symbol (.ofToken token))
  combinations :
    ∀ index command,
      script.commands[index]? = some command →
      command.kind = .combination →
      blocks[index]? =
        some
          (echoLines device.family
              (safeModeAfter config (script.commands.take index)) index
              command ++
            combinationLines device
              (safeModeAfter config (script.commands.take index))
              command.parameters ++
            delayLines device.family
              (delayAfter (script.commands.take index)) command ++
            [""])

/--
No key stays pressed: a program that is encoded releases every key that it
presses, the latest first, before the next command.
-/
theorem encode_releases_keys
    (config : EncoderConfig)
    (script : Script)
    (device : Device)
    {code : String}
    (encoded : (Encoder.encode config script device).outcome = .ok code) :
    ∃ blocks,
      code = programOf config script device blocks ∧
        ReleasesKeys config script device blocks := by
  obtain ⟨written, made, isCode⟩ := exists_blocks_of_encode encoded
  refine ⟨written, isCode, performs_of_blocks made,
    heldAfter_strokesBefore config device script.commands, ?_, ?_⟩
  · intro command member kind
    obtain ⟨index, atIndex⟩ := List.mem_iff_getElem?.mp member
    obtain ⟨lines, _, blockMade⟩ := exists_block_at made atIndex
    obtain ⟨plan, planned, _⟩ := block_eq_ok.mp blockMade
    exact symbolFor_token kind planned
  · intro index command atIndex kind
    obtain ⟨lines, isBlock, blockMade⟩ := exists_block_at made atIndex
    rw [isBlock, block_combination kind blockMade]

/-- A combination with a token twice, which is then repeated. -/
def pressingTwice :
    Script where
  commands :=
    [⟨.combination, 1, "CTRL c CTRL", ["CTRL", "c", "CTRL"]⟩,
      ⟨.replay, 2, "REPEAT 2", ["2"]⟩]
  source := "keys.txt"
  totalLines := 2

/-- A key that is pressed twice at a time is released twice, each time. -/
theorem encode_releases_keys_pressingTwice :
    ∃ code blocks,
      code =
          programOf {} pressingTwice
            (.standard "raspberry_pi_pico" "Raspberry Pi Pico" .circuitPython)
            blocks ∧
        ReleasesKeys {} pressingTwice
          (.standard "raspberry_pi_pico" "Raspberry Pi Pico" .circuitPython)
          blocks ∧
        (strokesBefore {}
            (.standard "raspberry_pi_pico" "Raspberry Pi Pico" .circuitPython)
            pressingTwice.commands 2).length =
          18 := by
  obtain ⟨blocks, isCode, releases⟩ :=
    encode_releases_keys {} pressingTwice
      (.standard "raspberry_pi_pico" "Raspberry Pi Pico" .circuitPython) rfl
  exact ⟨_, blocks, isCode, releases, rfl⟩

end Stateless

end Keystroke
