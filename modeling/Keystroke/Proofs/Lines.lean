import Keystroke.Encoder
import Keystroke.Proofs.Words

namespace Keystroke

/-!
# The lines of a text

A text is cut at its line feeds.  So no line has one, texts with a line feed
between them have the lines of both, and a program has the lines it was made
of, unless one of them has a line feed in it.
-/

namespace Text

/-- The pieces before a separator and those after it. -/
theorem pieces_append_separator
    {isSeparator : Char → Bool}
    {separator : Char}
    (isOne : isSeparator separator)
    (before after : List Char) :
    pieces isSeparator (before ++ separator :: after) =
      pieces isSeparator before ++ pieces isSeparator after := by
  induction before with
  | nil =>
      exact pieces_cons_separator isOne after
  | cons first rest inductionHypothesis =>
      obtain ⟨piece, others, shape⟩ :=
        List.exists_cons_of_ne_nil (pieces_ne_nil isSeparator rest)
      have unfolded
          (characters : List Char) :
          pieces isSeparator (first :: characters) =
            prependTo isSeparator first (pieces isSeparator characters) :=
        rfl
      rw [List.cons_append, unfolded, unfolded, inductionHypothesis, shape]
      simp only [List.cons_append, prependTo]
      split <;> rfl

/-- The characters of a piece come from the text and are no separators. -/
theorem mem_of_mem_pieces
    {isSeparator : Char → Bool}
    {characters piece : List Char}
    {character : Char}
    (isPiece : piece ∈ pieces isSeparator characters)
    (member : character ∈ piece) :
    character ∈ characters ∧ isSeparator character = false := by
  induction characters generalizing piece with
  | nil =>
      rw [List.mem_singleton.mp isPiece] at member
      cases member
  | cons first rest inductionHypothesis =>
      obtain ⟨start, others, shape⟩ :=
        List.exists_cons_of_ne_nil (pieces_ne_nil isSeparator rest)
      have inRest
          {later : List Char}
          (isLater : later ∈ start :: others)
          (laterMember : character ∈ later) :
          character ∈ first :: rest ∧ isSeparator character = false := by
        rw [← shape] at isLater
        obtain ⟨inText, isNone⟩ := inductionHypothesis isLater laterMember
        exact ⟨List.mem_cons_of_mem first inText, isNone⟩
      have unfolded :
          pieces isSeparator (first :: rest) =
            prependTo isSeparator first (start :: others) := by
        rw [← shape]
        rfl
      rw [unfolded, prependTo] at isPiece
      split at isPiece
      · rcases List.mem_cons.mp isPiece with isEmpty | isLater
        · rw [isEmpty] at member
          cases member
        · exact inRest isLater member
      · rename_i notOne
        rcases List.mem_cons.mp isPiece with isStart | isOther
        · rw [isStart] at member
          rcases List.mem_cons.mp member with isFirst | inStart
          · rw [isFirst]
            exact ⟨List.mem_cons_self, by simpa using notOne⟩
          · exact inRest List.mem_cons_self inStart
        · exact inRest (List.mem_cons_of_mem start isOther) member

/-- Two texts with a line feed between them have the lines of both. -/
theorem lines_append
    (first second : String) :
    lines (first ++ "\n" ++ second) = lines first ++ lines second := by
  have characters :
      (first ++ "\n" ++ second).toList =
        first.toList ++ '\n' :: second.toList := by
    simp
  rw [lines, characters, pieces_append_separator rfl, List.map_append]
  rfl

/-- No line has a line feed. -/
theorem not_mem_of_mem_lines
    {text line : String}
    (member : line ∈ lines text) :
    '\n' ∉ line.toList := by
  intro broken
  obtain ⟨piece, isPiece, rfl⟩ := List.mem_map.mp member
  rw [String.toList_ofList] at broken
  exact absurd (mem_of_mem_pieces isPiece broken).2 (by decide)

/-- A text without a line feed is one line. -/
theorem lines_of_not_mem
    {text : String}
    (unbroken : '\n' ∉ text.toList) :
    lines text = [text] := by
  have whole :
      pieces (· == '\n') (text.toList ++ []) = [text.toList ++ []] := by
    refine pieces_append ?_ rfl
    intro character member
    rw [beq_eq_false_iff_ne]
    rintro rfl
    exact unbroken member
  rw [List.append_nil] at whole
  rw [lines, whole, List.map_singleton, String.ofList_toList]

/-- Lines that are joined by line feeds are found again. -/
theorem lines_intercalate
    {entries : List String}
    (some : entries ≠ [])
    (unbroken : ∀ entry ∈ entries, '\n' ∉ entry.toList) :
    lines ("\n".intercalate entries) = entries := by
  induction entries with
  | nil =>
      exact absurd rfl some
  | cons first rest inductionHypothesis =>
      have firstLine : lines first = [first] :=
        lines_of_not_mem (unbroken first List.mem_cons_self)
      by_cases noRest : rest = []
      · rw [noRest, String.intercalate_singleton, firstLine]
      · have restLines :=
          inductionHypothesis noRest fun entry member =>
            unbroken entry (List.mem_cons_of_mem first member)
        rw [String.intercalate_cons_of_ne_nil noRest, lines_append,
          firstLine, restLines]
        rfl

end Text

/-- A program has the lines it was made of, and nothing after the last. -/
theorem Encoder.lines_programText
    {entries : List String}
    (some : entries ≠ [])
    (unbroken : ∀ entry ∈ entries, '\n' ∉ entry.toList) :
    Text.lines (programText entries) = entries ++ [""] := by
  have closed :
      programText entries = "\n".intercalate entries ++ "\n" ++ "" := by
    rw [String.append_empty]
    rfl
  rw [closed, Text.lines_append, Text.lines_intercalate some unbroken]
  rfl

end Keystroke
