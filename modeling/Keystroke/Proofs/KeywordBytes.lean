import Keystroke.Proofs.Keyword

namespace Keystroke

/-!
# Keywords cut off by bytes

A text is kept in bytes, and only the characters of ASCII take one byte each.  To
cut a keyword off a line by bytes is to cut the line at the length of the
keyword, and that offset may be inside a character or beyond the end of the
line.  Such a cut is a fault.  But the text before the offset is looked at first,
and where it spells a keyword of ASCII it takes as many bytes as the keyword.
So no line is cut badly, and cutting by bytes finds just what is found by
characters.
-/

namespace Text

/-- An offset in bytes at which a character starts or the text ends. -/
abbrev IsBoundary
    (text : String)
    (offset : Nat) :
    Prop :=
  String.Pos.Raw.IsValid text ⟨offset⟩

/-- A cut of a text at an offset that is no boundary of it. -/
structure BadCut where
  offset : Nat
  deriving Repr, DecidableEq

/-- The text before an offset, if that is a boundary. -/
def before?
    (text : String)
    (offset : Nat) :
    Option String :=
  if boundary : IsBoundary text offset then
    some (text.sliceTo (text.pos ⟨offset⟩ boundary)).copy
  else
    none

/-- The text from an offset on, which has to be a boundary. -/
def cutFrom
    (text : String)
    (offset : Nat) :
    Except BadCut String :=
  if boundary : IsBoundary text offset then
    .ok (text.sliceFrom (text.pos ⟨offset⟩ boundary)).copy
  else
    .error ⟨offset⟩

/-- The boundaries are the lengths of the parts that a text starts with. -/
theorem isBoundary_iff
    {text : String}
    {offset : Nat} :
    IsBoundary text offset ↔
      ∃ first second,
        text = first ++ second ∧ offset = first.utf8ByteSize := by
  simp only [IsBoundary, String.Pos.Raw.isValid_iff_exists_append,
    String.Pos.Raw.ext_iff, String.byteIdx_rawEndPos]

/-- Two texts, one after the other, are cut where the second starts. -/
theorem cut_append
    (first second : String) :
    before? (first ++ second) first.utf8ByteSize = some first ∧
      cutFrom (first ++ second) first.utf8ByteSize = .ok second := by
  have boundary : IsBoundary (first ++ second) first.utf8ByteSize :=
    isBoundary_iff.mpr ⟨first, second, rfl, rfl⟩
  have splits :
      ((first ++ second).pos ⟨first.utf8ByteSize⟩ boundary).Splits
        first second :=
    ⟨rfl, by simp [String.Pos.Raw.ext_iff]⟩
  obtain ⟨isFirst, isSecond⟩ :=
    splits.eq ((first ++ second).pos ⟨first.utf8ByteSize⟩ boundary).splits
  rw [before?, cutFrom, dif_pos boundary, dif_pos boundary, ← isFirst,
    ← isSecond]
  exact ⟨rfl, rfl⟩

/-- What stands before an offset is a part that the text starts with. -/
theorem exists_append_of_before?
    {text first : String}
    {offset : Nat}
    (found : before? text offset = some first) :
    ∃ second, text = first ++ second ∧ offset = first.utf8ByteSize := by
  by_cases boundary : IsBoundary text offset
  · obtain ⟨start, second, rfl, rfl⟩ := isBoundary_iff.mp boundary
    rw [(cut_append start second).1] at found
    cases found
    exact ⟨second, rfl, rfl⟩
  · rw [before?, dif_neg boundary] at found
    cases found

/-- Characters of ASCII take one byte each. -/
theorem utf8ByteSize_of_ascii
    {characters : List Char}
    (ascii : ∀ character ∈ characters, character.toNat < 128) :
    (String.ofList characters).utf8ByteSize = characters.length := by
  induction characters with
  | nil =>
      rfl
  | cons first rest inductionHypothesis =>
      have oneByte : first.utf8Size = 1 := by
        have small : first.val.toNat < 128 :=
          ascii first List.mem_cons_self
        rw [Char.utf8Size_eq_one_iff, UInt32.le_iff_toNat_le]
        exact Nat.le_of_lt_succ small
      have restSize :=
        inductionHypothesis fun character member =>
          ascii character (List.mem_cons_of_mem first member)
      rw [String.ofList_cons, String.utf8ByteSize_append,
        String.utf8ByteSize_singleton, oneByte, restSize, List.length_cons,
        Nat.add_comm]

/-- Upper case keeps a character of ASCII one, and no other becomes one. -/
theorem toUpper_lt_iff
    {character : Char} :
    character.toUpper.toNat < 128 ↔ character.toNat < 128 := by
  by_cases lower : 97 ≤ character.toNat ∧ character.toNat ≤ 122
  · have shifted := toNat_toUpper_of_lower lower
    omega
  · rw [toUpper_of_not_lower lower]

end Text

namespace Grammar

/--
What follows a keyword, cut out of a line by bytes.  The text before the end of
the keyword is compared with it, and only then is the line cut there.
-/
def cutKeyword
    (keyword : String)
    (line : String) :
    Except Text.BadCut (Option String) :=
  match Text.before? line keyword.utf8ByteSize with
  | none =>
      .ok none
  | some start =>
      if sameLetters start.toList keyword.toList then do
        let left ← Text.cutFrom line keyword.utf8ByteSize
        match left.toList with
        | [] =>
            pure (some left)
        | character :: _ =>
            if Text.isSpace character then
              pure (some (Text.trimStart left))
            else
              pure none
      else
        .ok none

/-- A spelling of a keyword of ASCII takes as many bytes as the keyword. -/
theorem Spells.utf8ByteSize_eq
    {keyword : String}
    (ascii : ∀ character ∈ keyword.toList, character.toNat < 128)
    {characters : List Char}
    (spells : Spells keyword characters) :
    (String.ofList characters).utf8ByteSize = keyword.utf8ByteSize := by
  have spellingAscii :
      ∀ character ∈ characters, character.toNat < 128 := by
    intro character member
    have upperMember :
        character.toUpper ∈ keyword.toList.map Char.toUpper := by
      rw [← spells]
      exact List.mem_map_of_mem member
    obtain ⟨letter, isLetter, sameUpper⟩ := List.mem_map.mp upperMember
    rw [← Text.toUpper_lt_iff, ← sameUpper, Text.toUpper_lt_iff]
    exact ascii letter isLetter
  have keywordSize := Text.utf8ByteSize_of_ascii ascii
  rw [String.ofList_toList] at keywordSize
  rw [Text.utf8ByteSize_of_ascii spellingAscii, spells.length_eq,
    keywordSize]

/-- A line with a keyword of ASCII is cut right after the keyword. -/
theorem Follows.cut
    {keyword line : String}
    (ascii : ∀ character ∈ keyword.toList, character.toNat < 128)
    {rest start blanks : List Char}
    (follows : Follows keyword line.toList rest start blanks) :
    Text.before? line keyword.utf8ByteSize = some (String.ofList start) ∧
      Text.cutFrom line keyword.utf8ByteSize =
        .ok (String.ofList (blanks ++ rest)) := by
  have shape :
      line = String.ofList start ++ String.ofList (blanks ++ rest) := by
    rw [← String.ofList_append, ← List.append_assoc, ← follows.shape,
      String.ofList_toList]
  rw [shape, ← follows.spells.utf8ByteSize_eq ascii]
  exact Text.cut_append _ _

/-- A line starts with a keyword in one way only. -/
theorem Follows.unique
    {keyword : String}
    {line rest start blanks otherRest otherStart otherBlanks : List Char}
    (first : Follows keyword line rest start blanks)
    (second : Follows keyword line otherRest otherStart otherBlanks) :
    start = otherStart ∧ blanks = otherBlanks ∧ rest = otherRest := by
  have sameLine :
      start ++ (blanks ++ rest) = otherStart ++ (otherBlanks ++ otherRest) := by
    rw [← List.append_assoc, ← first.shape, second.shape,
      List.append_assoc]
  have sameLength : start.length = otherStart.length := by
    rw [first.spells.length_eq, second.spells.length_eq]
  obtain ⟨sameStart, sameLeft⟩ := List.append_inj sameLine sameLength
  -- The blank characters are all up to the first that is not blank.
  have dropped
      {blanks rest : List Char}
      (areBlank : ∀ character ∈ blanks, Text.isSpace character)
      (restStart :
        ∀ character, rest.head? = some character →
          Text.isSpace character = false) :
      (blanks ++ rest).dropWhile Text.isSpace = rest := by
    rw [List.dropWhile_append_of_pos areBlank]
    exact Text.dropWhile_eq_self restStart
  have sameRest : rest = otherRest := by
    rw [← dropped first.areBlank first.restStart, sameLeft,
      dropped second.areBlank second.restStart]
  rw [sameRest] at sameLeft
  exact ⟨sameStart, List.append_cancel_right sameLeft, sameRest⟩

/-- By characters, a line is read on from the end of a spelled keyword. -/
theorem afterKeyword?_append
    {keyword start : String}
    (spells : Spells keyword start.toList)
    (left : String) :
    afterKeyword? keyword (start ++ left) =
      match left.toList with
      | [] => some left
      | character :: _ =>
          if Text.isSpace character then
            some (Text.trimStart left)
          else
            none := by
  have taken :
      (start ++ left).toList.take keyword.toList.length = start.toList := by
    rw [String.toList_append, ← spells.length_eq, List.take_left]
  have dropped :
      (start ++ left).toList.drop keyword.toList.length = left.toList := by
    rw [String.toList_append, ← spells.length_eq, List.drop_left]
  have same : sameLetters start.toList keyword.toList :=
    beq_iff_eq.mpr spells
  simp only [afterKeyword?, taken, dropped, same, ↓reduceIte]
  cases leftShape : left.toList with
  | nil =>
      rw [String.toList_eq_nil_iff.mp leftShape]
  | cons character others =>
      simp only [Text.trimStart, leftShape]
      split
      · rename_i isBlank
        rw [List.dropWhile_cons_of_pos isBlank]
      · rfl

/-- Cutting by bytes is never a fault and finds what is found by characters. -/
theorem cutKeyword_eq
    {keyword : String}
    (ascii : ∀ character ∈ keyword.toList, character.toNat < 128)
    (line : String) :
    cutKeyword keyword line = .ok (afterKeyword? keyword line) := by
  have notFound
      (nowhere :
        ∀ start, Spells keyword start →
          Text.before? line keyword.utf8ByteSize ≠
            some (String.ofList start)) :
      afterKeyword? keyword line = none := by
    rw [Option.eq_none_iff_forall_ne_some]
    intro rest found
    obtain ⟨start, blanks, follows⟩ := afterKeyword?_eq_some.mp found
    exact nowhere start follows.spells (follows.cut ascii).1
  unfold cutKeyword
  split
  · rename_i none
    rw [notFound]
    intro start _ found
    rw [none] at found
    cases found
  · rename_i start found
    split
    · rename_i same
      have spells : Spells keyword start.toList := beq_iff_eq.mp same
      obtain ⟨left, rfl, isSize⟩ := Text.exists_append_of_before? found
      rw [isSize, (Text.cut_append start left).2,
        afterKeyword?_append spells]
      simp only [bind, Except.bind]
      split
      · rfl
      · split <;> rfl
    · rename_i different
      rw [notFound]
      intro other spells isOther
      rw [found] at isOther
      cases isOther
      rw [String.toList_ofList] at different
      exact different (beq_iff_eq.mpr spells)

/--
A keyword of ASCII is cut off a line exactly.  What follows it is the rest of
the line after the keyword in any case and a run of blank characters, which is
missing only if the rest is; there is one way to take a line apart like that.
Cutting the line by bytes gives the same.  It is cut at a boundary, right after
the keyword, and where the length of the keyword is no boundary, inside a
character or beyond the end of the line, nothing follows the keyword.
-/
theorem afterKeyword?_cuts_at_boundary
    {keyword : String}
    (ascii : ∀ character ∈ keyword.toList, character.toNat < 128)
    (line : String) :
    (∀ rest,
      afterKeyword? keyword line = some rest ↔
        ∃ start blanks,
          Follows keyword line.toList rest.toList start blanks) ∧
      (∀ rest start blanks otherRest otherStart otherBlanks,
        Follows keyword line.toList rest start blanks →
        Follows keyword line.toList otherRest otherStart otherBlanks →
        start = otherStart ∧ blanks = otherBlanks ∧ rest = otherRest) ∧
      cutKeyword keyword line = .ok (afterKeyword? keyword line) ∧
      (∀ rest start blanks,
        Follows keyword line.toList rest start blanks →
        Text.IsBoundary line keyword.utf8ByteSize ∧
          Text.before? line keyword.utf8ByteSize =
            some (String.ofList start) ∧
          Text.cutFrom line keyword.utf8ByteSize =
            .ok (String.ofList (blanks ++ rest))) ∧
      (¬ Text.IsBoundary line keyword.utf8ByteSize →
        afterKeyword? keyword line = none) := by
  have boundary
      {rest start blanks : List Char}
      (follows : Follows keyword line.toList rest start blanks) :
      Text.IsBoundary line keyword.utf8ByteSize := by
    obtain ⟨left, shape, isSize⟩ :=
      Text.exists_append_of_before? (follows.cut ascii).1
    exact Text.isBoundary_iff.mpr ⟨_, left, shape, isSize⟩
  refine ⟨fun rest => afterKeyword?_eq_some, ?_, cutKeyword_eq ascii line,
    ?_, ?_⟩
  · intro rest start blanks otherRest otherStart otherBlanks first second
    exact first.unique second
  · intro rest start blanks follows
    exact ⟨boundary follows, follows.cut ascii⟩
  · intro noBoundary
    rw [Option.eq_none_iff_forall_ne_some]
    intro rest found
    obtain ⟨start, blanks, follows⟩ := afterKeyword?_eq_some.mp found
    exact noBoundary (boundary follows)

/-- A wide blank after a keyword in lower case, and a wide character inside it. -/
theorem afterKeyword?_cuts_at_boundary_wide :
    'R' ∈ "REM".toList ∧
      (∀ character ∈ "REM".toList, character.toNat < 128) ∧
      cutKeyword "REM" "rem\u3000é" = .ok (some "é") ∧
      ¬ Text.IsBoundary "reé" 3 ∧
      cutKeyword "REM" "reé" = .ok none := by
  have ascii : ∀ character ∈ "REM".toList, character.toNat < 128 := by
    simp
  obtain ⟨_, _, found, _, _⟩ :=
    afterKeyword?_cuts_at_boundary ascii "rem\u3000é"
  obtain ⟨_, _, refused, _, missing⟩ :=
    afterKeyword?_cuts_at_boundary ascii "reé"
  have noBoundary : ¬ Text.IsBoundary "reé" 3 := by
    decide
  refine ⟨by decide, ascii, found, noBoundary, ?_⟩
  rw [refused, missing noBoundary]

end Grammar

end Keystroke
