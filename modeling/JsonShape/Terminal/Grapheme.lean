import JsonShape.Text.Width

/-!
# Graphemes

What a terminal shows as one character may be several: marks, emoji selectors and joined characters
go with the character before them.  A text is cut between graphemes only.
-/

namespace JsonShape

/-- Characters that are shown as one, and the cells that they take. -/
structure Grapheme where
  text : Text
  width : Nat

namespace Grapheme

/-- The graphemes of a text that goes on from a grapheme; `last` is the last character that took
cells, unless a selector has widened it. -/
def continued (g : Grapheme) (last : Option CodePoint) : Text → List Grapheme
  | [] => [g]
  | c :: t =>
    if c = CodePoint.joiner then
      match t with
      | [] => [⟨g.text ++ [c], g.width⟩]
      | d :: t => continued ⟨g.text ++ [c, d], g.width⟩ last t
    else if c = CodePoint.emojiSelector then
      continued ⟨g.text ++ [c], g.width + Text.widening last⟩ none t
    else if c.width = 0 then continued ⟨g.text ++ [c], g.width⟩ last t
    else g :: continued ⟨[c], c.width⟩ (some c) t

/-- The graphemes of a text.  What goes with a character before it, and stands at the front, is a
grapheme without cells. -/
def ofText : Text → List Grapheme
  | [] => []
  | c :: t =>
    if c = CodePoint.joiner ∨ c = CodePoint.emojiSelector ∨ c.width = 0 then
      continued ⟨[c], 0⟩ none t
    else continued ⟨[c], c.width⟩ (some c) t

/-- The text of graphemes. -/
def toText (gs : List Grapheme) : Text := gs.flatMap Grapheme.text

theorem toText_continued (g : Grapheme) (last : Option CodePoint) (t : Text) :
    toText (continued g last t) = g.text ++ t := by
  fun_induction continued g last t with
  | case1 => simp [toText]
  | case2 => simp [toText]
  | case3 _ _ _ _ ih => simp [ih]
  | case4 _ _ _ _ ih => simp [ih]
  | case5 _ _ _ _ _ _ _ ih => simp [ih]
  | case6 g _ c t _ _ _ ih =>
    rw [toText] at ih ⊢
    simp [ih]

/-- No character is lost or moved. -/
theorem toText_ofText (t : Text) : toText (ofText t) = t := by
  cases t with
  | nil => rfl
  | cons c t =>
    rw [ofText]
    split <;> simp [toText_continued]

/-- The graphemes at the front that fill a number of cells; one that is too wide for what is left
becomes a space. -/
def fill : (cells : Nat) → List Grapheme → Text
  | 0, _ => []
  | _, [] => []
  | n + 1, g :: gs =>
    if n + 1 < g.width then [' '] else g.text ++ fill (n + 1 - g.width) gs

/-- Graphemes cut into rows of a number of cells; `row` is filled to `filled` cells. -/
def rows (cells : Nat) (row : Text) (filled : Nat) : List Grapheme → List Text
  | [] => if filled = 0 then [] else [row]
  | g :: gs =>
    if cells < filled + g.width then row :: rows cells g.text g.width gs
    else rows cells (row ++ g.text) (filled + g.width) gs

end Grapheme

namespace Text

/-- A text at a width: cut, or with spaces after it. -/
def resized (width : Nat) (t : Text) : Text :=
  if t.width ≤ width then t ++ spaces (width - t.width)
  else Grapheme.fill width (Grapheme.ofText t)

/-- A text cut into rows of a width. -/
def chopped (width : Nat) (t : Text) : List Text := Grapheme.rows width [] 0 (Grapheme.ofText t)

end Text

end JsonShape
