import Keystroke.Proofs.LineGrammar

namespace Keystroke.Grammar

/-!
# The rule of a line

The words of a line call for one rule at most: a number sign, a keyword or,
among the lines that start with a modifier, the number of words decides.  So
the order in which the rules are tried does not matter, and matching a line
finds the production that derives it.
-/

/-- The keyword at the start of the lines of a rule. -/
def Rule.keyword? :
    Rule → Option String
  | .delay => some "DELAY"
  | .text => some "STRING"
  | .safeMode => some "SAFE_MODE"
  | .attackMode => some "ATTACKMODE"
  | .remark => some "REM"
  | .combination | .key | .comment => none

/-- The only rule that may accept a line with the given first word. -/
def Rule.calledFor
    (name : String)
    (alone : Bool) :
    Rule :=
  if name.toList.head? = some '#' then
    .comment
  else
    match Rule.all.find? fun rule => rule.keyword? = some name with
    | some rule => rule
    | none => if alone then .key else .combination

/-- The words of a line call for a rule. -/
def CallsFor
    (words : List (List Char))
    (rule : Rule) :
    Prop :=
  ∃ first others,
    words = first :: others ∧
      Rule.calledFor (Text.upper (String.ofList first)) others.isEmpty = rule

/-- Words call for one rule at most. -/
theorem CallsFor.unique
    {words : List (List Char)}
    {rule other : Rule}
    (called : CallsFor words rule)
    (calledOther : CallsFor words other) :
    rule = other := by
  obtain ⟨first, others, shape, isRule⟩ := called
  obtain ⟨otherFirst, otherOthers, otherShape, isOther⟩ := calledOther
  rw [shape] at otherShape
  cases otherShape
  rw [← isRule, ← isOther]

/-- A keyword is a word in upper case that calls for its rule. -/
theorem calledFor_keyword
    {rule : Rule}
    {keyword : String}
    (isKeyword : rule.keyword? = some keyword) :
    Text.Word keyword.toList ∧
      Text.upper keyword = keyword ∧
      ∀ alone, Rule.calledFor keyword alone = rule := by
  cases rule <;> cases isKeyword <;> decide

/-- A rule with a keyword accepts a line only after the keyword. -/
theorem exists_afterKeyword?_of_read?
    {rule : Rule}
    {keyword line : String}
    {reading : Reading}
    (isKeyword : rule.keyword? = some keyword)
    (found : rule.read? line = some reading) :
    ∃ rest, afterKeyword? keyword line = some rest := by
  cases rule with
  | combination | key | comment =>
      cases isKeyword
  | text | remark =>
      cases isKeyword
      obtain ⟨text, after, _⟩ := Option.map_eq_some_iff.mp found
      exact ⟨text, after⟩
  | delay =>
      cases isKeyword
      obtain ⟨value, argument, _⟩ := Option.map_eq_some_iff.mp found
      exact ⟨value, (argument?_eq_some.mp argument).1⟩
  | safeMode =>
      cases isKeyword
      simp only [Rule.read?, safeMode?] at found
      split at found
      · cases found
      · rename_i value argument
        exact ⟨value, (argument?_eq_some.mp argument).1⟩
  | attackMode =>
      cases isKeyword
      simp only [Rule.read?, attackMode?] at found
      split at found
      · cases found
      · rename_i value argument
        exact ⟨value, (argument?_eq_some.mp argument).1⟩

/-- A keyword at the start of a line calls for its rule. -/
theorem callsFor_of_afterKeyword?
    {rule : Rule}
    {keyword line rest : String}
    (isKeyword : rule.keyword? = some keyword)
    (found : afterKeyword? keyword line = some rest) :
    CallsFor (Text.wordsOf line.toList) rule := by
  obtain ⟨isWord, isUpper, calls⟩ := calledFor_keyword isKeyword
  obtain ⟨start, blanks, follows⟩ := afterKeyword?_eq_some.mp found
  refine ⟨start, _, follows.wordsOf_eq isWord, ?_⟩
  rw [(spells_iff isUpper).mp follows.spells]
  exact calls _

/-- A combination has a modifier before other words. -/
theorem callsFor_of_combination?
    {line : String}
    {reading : Reading}
    (found : combination? line = some reading) :
    CallsFor (Text.wordsOf line.toList) .combination := by
  unfold combination? at found
  rw [Text.words_eq] at found
  split at found
  · rename_i first second others cut
    split at found
    · rename_i accepted
      obtain ⟨firstWord, otherWords, shape, isFirst, otherCut⟩ :=
        List.map_eq_cons_iff.mp cut
      obtain ⟨secondWord, following, otherShape, _, _⟩ :=
        List.map_eq_cons_iff.mp otherCut
      subst otherShape isFirst
      rw [Bool.and_eq_true, isSome_modifier_iff,
        exists_spells_iff (by decide)] at accepted
      have calls :
          ∀ name ∈ modifierNames,
            Rule.calledFor name false = .combination := by
        decide
      exact ⟨firstWord, _, shape, calls _ accepted.1⟩
    · cases found
  · cases found

/-- A line that is the name of a key is one word. -/
theorem callsFor_of_key?
    {line : String}
    {reading : Reading}
    (found : key? line = some reading) :
    CallsFor (Text.wordsOf line.toList) .key := by
  have derived := key?_eq_some_iff.mp found
  cases derived with
  | key member spells =>
      rename_i name kind
      have areNames :
          ∀ entry ∈ keyNames,
            Text.Word entry.1.toList ∧ Text.upper entry.1 = entry.1 ∧
              Rule.calledFor entry.1 true = .key := by
        decide
      obtain ⟨isWord, isUpper, calls⟩ := areNames (name, kind) member
      refine ⟨line.toList, [], Text.wordsOf_word (spells.word isWord), ?_⟩
      rw [(spells_iff isUpper).mp spells]
      exact calls

/-- The first word of a comment starts with the number sign. -/
theorem callsFor_of_comment?
    {line : String}
    {reading : Reading}
    (found : comment? line = some reading) :
    CallsFor (Text.wordsOf line.toList) .comment := by
  unfold comment? at found
  split at found
  · rename_i any shape
    have notBlank : Text.isSpace '#' = false := by
      decide
    obtain ⟨word, others, cut⟩ := Text.wordsOf_cons_visible notBlank any
    refine ⟨'#' :: word, others, by rw [shape, cut], ?_⟩
    simp [Rule.calledFor]
  · cases found

/-- A rule accepts a line only if the words of the line call for it. -/
theorem callsFor_of_read?
    {rule : Rule}
    {line : String}
    {reading : Reading}
    (found : rule.read? line = some reading) :
    CallsFor (Text.wordsOf line.toList) rule := by
  cases isKeyword : rule.keyword? with
  | some keyword =>
      obtain ⟨rest, after⟩ := exists_afterKeyword?_of_read? isKeyword found
      exact callsFor_of_afterKeyword? isKeyword after
  | none =>
      cases rule with
      | combination =>
          exact callsFor_of_combination? found
      | key =>
          exact callsFor_of_key? found
      | comment =>
          exact callsFor_of_comment? found
      | delay | text | safeMode | attackMode | remark =>
          cases isKeyword

/-- A line is accepted by one rule at most. -/
theorem rule_unique_of_read?
    {rule other : Rule}
    {line : String}
    {reading otherReading : Reading}
    (isRead : rule.read? line = some reading)
    (otherRead : other.read? line = some otherReading) :
    rule = other :=
  (callsFor_of_read? isRead).unique (callsFor_of_read? otherRead)

/-! ## The order of the rules -/

/-- The first of some rules that accepts a line, with what it reads. -/
def matchInOrder?
    (order : List Rule)
    (line : String) :
    Option (Rule × Reading) :=
  order.findSome? fun rule =>
    (rule.read? line).map fun reading => (rule, reading)

/-- The rule that is found in an order is in it and accepts the line. -/
theorem mem_and_read?_of_matchInOrder?
    {order : List Rule}
    {line : String}
    {rule : Rule}
    {reading : Reading}
    (found : matchInOrder? order line = some (rule, reading)) :
    rule ∈ order ∧ rule.read? line = some reading := by
  obtain ⟨tried, member, accepts⟩ := List.exists_of_findSome?_eq_some found
  obtain ⟨accepted, isRead, same⟩ := Option.map_eq_some_iff.mp accepts
  cases same
  exact ⟨member, isRead⟩

/-- In every order of some rules, the one that accepts the line is found. -/
theorem matchInOrder?_eq_some
    {order : List Rule}
    {line : String}
    {rule : Rule}
    {reading : Reading} :
    matchInOrder? order line = some (rule, reading) ↔
      rule ∈ order ∧ rule.read? line = some reading := by
  constructor
  · exact mem_and_read?_of_matchInOrder?
  · rintro ⟨member, isRead⟩
    have isFound : (matchInOrder? order line).isSome := by
      rw [matchInOrder?, List.findSome?_isSome_iff]
      exact ⟨rule, member, by simp [isRead]⟩
    obtain ⟨⟨other, otherReading⟩, found⟩ :=
      Option.isSome_iff_exists.mp isFound
    obtain ⟨_, otherRead⟩ := mem_and_read?_of_matchInOrder? found
    have sameRule : rule = other := rule_unique_of_read? isRead otherRead
    subst sameRule
    rw [isRead, Option.some_inj] at otherRead
    rw [found, otherRead]

/-- Two orders of the same rules find the same rule and read the same. -/
theorem matchInOrder?_congr
    {first second : List Rule}
    (sameRules : ∀ rule, rule ∈ first ↔ rule ∈ second)
    (line : String) :
    matchInOrder? first line = matchInOrder? second line := by
  apply Option.ext
  rintro ⟨rule, reading⟩
  rw [matchInOrder?_eq_some, matchInOrder?_eq_some, sameRules]

/-- The rule that matching finds accepts the line. -/
theorem read?_of_matchLine?
    {line : String}
    {rule : Rule}
    {reading : Reading}
    (found : matchLine? line = some (rule, reading)) :
    rule.read? line = some reading :=
  (mem_and_read?_of_matchInOrder? found).2

/-- Matching finds the one rule that accepts a line. -/
theorem matchLine?_eq_some
    {line : String}
    {rule : Rule}
    {reading : Reading} :
    matchLine? line = some (rule, reading) ↔ rule.read? line = some reading := by
  have isListed : rule ∈ Rule.all := by
    cases rule <;> decide
  constructor
  · exact read?_of_matchLine?
  · intro isRead
    exact matchInOrder?_eq_some.mpr ⟨isListed, isRead⟩

/--
The grammar is unambiguous.  No line, trimmed or not, is accepted by two rules,
so the rules may be tried in any order: a line is matched by the same rule with
the same kind and the same parameters, or by none.
-/
theorem matchLine?_ignores_order
    (line : String) :
    (∀ rule other : Rule,
        (rule.read? line).isSome →
        (other.read? line).isSome →
        rule = other) ∧
      ∀ order : List Rule,
        order.Perm Rule.all →
        matchInOrder? order line = matchLine? line := by
  constructor
  · intro rule other accepted otherAccepted
    obtain ⟨_, isRead⟩ := Option.isSome_iff_exists.mp accepted
    obtain ⟨_, otherRead⟩ := Option.isSome_iff_exists.mp otherAccepted
    exact rule_unique_of_read? isRead otherRead
  · intro order permuted
    exact matchInOrder?_congr (fun _ => permuted.mem_iff) line

/-- A combination behind a blank is found from the last rule backwards. -/
theorem matchLine?_ignores_order_backwards :
    Rule.all.reverse.Perm Rule.all ∧
      (Rule.combination.read? "\tMod r").isSome ∧
      matchInOrder? Rule.all.reverse "\tMod r" =
        some (.combination, ⟨.combination, ["Mod", "r"]⟩) := by
  have permuted : Rule.all.reverse.Perm Rule.all :=
    List.reverse_perm Rule.all
  refine ⟨permuted, by decide, ?_⟩
  rw [(matchLine?_ignores_order "\tMod r").2 Rule.all.reverse permuted]
  decide

/-! ## Lines of the grammar -/

/--
Matching a trimmed line finds the production that derives it, with what the
production captures.  It succeeds on the lines of the grammar except for the
empty line, which is no command.
-/
theorem matchLine?_iff_grammar
    {line : String}
    (trimmed : Text.trim line = line) :
    (∀ rule reading,
        matchLine? line = some (rule, reading) ↔
          Production rule line.toList reading) ∧
      ((matchLine? line).isSome ↔ LineForm line.toList ∧ line ≠ "") := by
  have derives :
      ∀ rule reading,
        matchLine? line = some (rule, reading) ↔
          Production rule line.toList reading := by
    intro rule reading
    rw [matchLine?_eq_some, read?_eq_some_iff (Text.trim_eq_self.mp trimmed)]
  refine ⟨derives, ?_⟩
  constructor
  · intro isFound
    obtain ⟨⟨rule, reading⟩, found⟩ := Option.isSome_iff_exists.mp isFound
    refine ⟨.command ((derives rule reading).mp found), ?_⟩
    intro empty
    rw [empty] at found
    cases found
  · rintro ⟨form, notEmpty⟩
    generalize shape : line.toList = characters at form
    cases form with
    | command production =>
        rw [← shape] at production
        rw [(derives _ _).mpr production]
        rfl
    | empty =>
        exact (notEmpty (String.toList_eq_nil_iff.mp shape)).elim

example :
    ["DELAYED 5", "REMARK", "F13", "CTRL ;"].map matchLine? =
      [none, none, none, none] := by
  decide

/-- The words of an attack mode are captured with the blanks between them. -/
theorem matchLine?_iff_grammar_attackMode :
    Text.trim "attackMode Hid  STORAGE" = "attackMode Hid  STORAGE" ∧
      Production .attackMode "attackMode Hid  STORAGE".toList
        ⟨.attackMode, ["Hid  STORAGE"]⟩ :=
  ⟨by decide,
    ((matchLine?_iff_grammar (by decide)).1 .attackMode
      ⟨.attackMode, ["Hid  STORAGE"]⟩).mp (by decide)⟩

/-- The empty line is a line of the grammar that matching refuses. -/
theorem empty_line_not_matched :
    Text.trim "" = "" ∧
      LineForm "".toList ∧
      ¬ (matchLine? "").isSome :=
  ⟨by decide, .empty, by decide⟩

end Keystroke.Grammar
