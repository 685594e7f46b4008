import JsonShape.Terminal.Styled

/-!
# Wrapping

A text is laid out in lines of a width.  Lines break between words, where the next word does not
fit any more; the spaces after a word belong to it and may stand out at the end of a line.  A word
that is too wide for any line is folded, or its line is cut and ends in an ellipsis.
-/

namespace JsonShape

/-- The cells of a line of the terminal. -/
def terminalWidth : Nat := 200

/-- How a line stands in its width. -/
inductive Justify
  /-- At the left, and no wider than it is. -/
  | ragged
  /-- At the left, with spaces after it. -/
  | left
  /-- In the middle, rather to the left, with spaces at both sides. -/
  | center

/-- What becomes of a word that is too wide for a line. -/
inductive Overflow
  | fold
  | ellipsis

namespace Text

/-! ### Words -/

/-- A text cut where a solid character follows a space. -/
def chunks : Text → List Text
  | [] => []
  | c :: t =>
    match chunks t with
    | [] => [[c]]
    | w :: ws =>
      if c.isSpace && w.head?.any (!·.isSpace) then [c] :: w :: ws else (c :: w) :: ws

theorem flatten_chunks (t : Text) : (chunks t).flatten = t := by
  induction t with
  | nil => rfl
  | cons c t ih =>
    rw [chunks]
    split
    · next h => simp_all
    · next w ws h =>
      rw [h] at ih
      split <;> simp [← ih]

/-- The words of a text, each with the spaces after it, the first one also with those before. -/
def words (t : Text) : List Text :=
  match chunks t with
  | w :: v :: ws => if w.all CodePoint.isSpace then (w ++ v) :: ws else w :: v :: ws
  | ws => ws

/-- Every character belongs to a word. -/
theorem flatten_words (t : Text) : (words t).flatten = t := by
  have h := flatten_chunks t
  rw [words]
  split
  · next heq =>
    rw [heq] at h
    split <;> simp [← h]
  · exact h

/-! ### Lines -/

/-- Fills lines with words; `line` is filled to `filled` cells. -/
def fillLines (width : Nat) (overflow : Overflow) (line : Text) (filled : Nat) :
    List Text → List Text
  | [] => [line]
  | w :: ws =>
    let solid := (trimEnd w).width
    let ended := if line = [] then [] else [line]
    if filled + solid ≤ width then fillLines width overflow (line ++ w) (filled + w.width) ws
    else if width < solid then
      match overflow with
      | .fold =>
        let rows := w.chopped width
        let last := rows.getLast?.getD []
        ended ++ rows.dropLast ++ fillLines width overflow last last.width ws
      | .ellipsis => ended ++ fillLines width overflow w w.width ws
    else if filled = 0 then fillLines width overflow (line ++ w) filled ws
    else ended ++ fillLines width overflow w w.width ws

/-- A text in parts, one for each line of a width. -/
def inLines (width : Nat) (overflow : Overflow) (t : Text) : List Text :=
  fillLines width overflow [] 0 (words t)

end Text

namespace Styled

/-- A line without spaces at its end, as far as there are more characters than cells. -/
def trimExcess (width : Nat) (s : Styled) : Styled :=
  let spaces := s.text.length - s.text.trimEnd.length
  s.withText (s.text.take (s.text.length - min spaces (s.text.length - width)))

/-- A line cut to a width. -/
def truncated (width : Nat) (overflow : Overflow) (s : Styled) : Styled :=
  if s.text.width ≤ width then s
  else
    match overflow with
    | .fold => s.withText (s.text.resized width)
    | .ellipsis => s.withText (s.text.resized (width - 1) ++ "…")

/-- A line with `n` spaces before it. -/
def indented (n : Nat) (s : Styled) : Styled := ⟨Text.spaces n ++ s.text, s.spans.map (·.shift n)⟩

/-- A line with spaces after it up to a width. -/
def padded (width : Nat) (s : Styled) : Styled :=
  ⟨s.text ++ Text.spaces (width - s.text.width), s.spans⟩

/-- A line as it stands in its width. -/
def justified (width : Nat) (justify : Justify) (overflow : Overflow) (s : Styled) : Styled :=
  match justify with
  | .ragged => s.truncated width overflow
  | .left => if s.text.width < width then s.padded width else s.truncated width overflow
  | .center =>
    let s := (s.withText s.text.trimEnd).truncated width overflow
    (s.indented ((width - s.text.width) / 2)).padded width

/-- **A text in lines of a width.** -/
def wrap (width : Nat) (justify : Justify) (overflow : Overflow) (s : Styled) : List Styled :=
  s.lines.flatMap fun line =>
    let line := line.expandTabs
    (line.inParts 0 (line.text.inLines width overflow)).map fun l =>
      (l.trimExcess width).justified width justify overflow

end Styled

end JsonShape
