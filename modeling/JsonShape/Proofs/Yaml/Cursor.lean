import JsonShape.Yaml.Cursor

/-!
# Moves of a cursor

A cursor that passes `n` code points leaves the text without them (`rest_advance`).  Passing letters
of a line, it stays in the line and counts columns; passing a line feed, it comes to the start of
the next line.
-/

namespace JsonShape.Yaml

/-- A printable code point of ASCII, the space included. -/
def isPrintable (c : CodePoint) : Bool := 0x20 ≤ c.val && c.val ≤ 0x7E

theorem isBreak_of_isPrintable {c : CodePoint} (h : isPrintable c = true) : isBreak c = false := by
  simp only [isPrintable, Bool.and_eq_true, decide_eq_true_eq] at h
  have hfeed : c ≠ ('\n' : CodePoint) := by rintro rfl; revert h; decide
  have hreturn : c ≠ ('\r' : CodePoint) := by rintro rfl; revert h; decide
  simp [isBreak, hfeed, hreturn]
  omega

theorem isAllowed_of_isPrintable {c : CodePoint} (h : isPrintable c = true) :
    isAllowed c = true := by
  simp only [isPrintable, Bool.and_eq_true, decide_eq_true_eq] at h
  simp [isAllowed, h.1, h.2]

namespace Cursor

variable {c : Cursor} {w r : Text} {x : CodePoint}

theorem rest_next (c : Cursor) : c.next.rest = c.rest.tail := by
  rw [next]
  split
  · next h => rw [h]; rfl
  · next h => rw [h]; split <;> rfl

theorem rest_advance (n : Nat) (c : Cursor) : (c.advance n).rest = c.rest.drop n := by
  induction n generalizing c with
  | zero => rfl
  | succ n ih => rw [advance, ih, rest_next, List.drop_tail]

/-- A code point of a line takes one column. -/
theorem next_of_isPrintable (h : c.rest = x :: r) (hx : isPrintable x = true) :
    c.next = ⟨r, c.index + 1, c.line, c.column + 1⟩ := by
  have hmark : x ≠ byteOrderMark := by rintro rfl; revert hx; decide
  rw [next, h]
  simp [isBreak_of_isPrintable hx, hmark]

/-- A line feed leads to the start of the next line. -/
theorem next_of_lineFeed (h : c.rest = ('\n' : CodePoint) :: r) :
    c.next = ⟨r, c.index + 1, c.line + 1, 0⟩ := by
  rw [next, h]
  rfl

/-- **Within a line,** a cursor moves by columns. -/
theorem advance_of_isPrintable (h : c.rest = w ++ r) (hw : w.all isPrintable = true) :
    c.advance w.length = ⟨r, c.index + w.length, c.line, c.column + w.length⟩ := by
  induction w generalizing c with
  | nil => cases c; subst h; rfl
  | cons x w ih =>
    rw [List.all_cons, Bool.and_eq_true] at hw
    rw [List.length_cons, advance, next_of_isPrintable h hw.1, ih rfl hw.2]
    simp only [Cursor.mk.injEq, true_and]
    omega

theorem takeBreak?_of_lineFeed (h : c.rest = ('\n' : CodePoint) :: r) :
    c.takeBreak? = some (('\n' : CodePoint), ⟨r, c.index + 1, c.line + 1, 0⟩) := by
  have hreturn : ('\n' : CodePoint) ≠ '\r' := by decide
  rw [takeBreak?, h]
  simp [hreturn, next_of_lineFeed h]

/-- No break is taken where there is none. -/
theorem takeBreak?_eq_none (h : ∀ x ∈ c.rest.head?, isBreak x = false) : c.takeBreak? = none := by
  rw [takeBreak?]
  split
  · rfl
  · next x rest hrest =>
    rw [hrest] at h
    have hx := h x rfl
    simp only [isBreak, Bool.or_eq_false_iff, decide_eq_false_iff_not] at hx
    obtain ⟨⟨⟨⟨hfeed, hreturn⟩, hnext⟩, hline⟩, hparagraph⟩ := hx
    simp [hfeed, hreturn, hnext, hline, hparagraph]

theorem span_eq (p : CodePoint → Bool) (h : c.rest = w ++ r) (hw : w.all p = true)
    (hr : ∀ x ∈ r.head?, p x = false) : c.span p = (w, c.advance w.length) := by
  have htaken : c.rest.takeWhile p = w := by
    rw [h, List.takeWhile_append_of_pos (List.all_eq_true.1 hw)]
    cases r with
    | nil => simp
    | cons x r => rw [List.takeWhile_cons_of_neg (by simp [hr x rfl]), List.append_nil]
  rw [span, htaken]

/-- Nothing is skipped where the skipping ends. -/
theorem skip_eq_self (p : CodePoint → Bool) (h : ∀ x ∈ c.rest.head?, p x = false) :
    c.skip p = c := by
  rw [skip, span_eq p (w := []) rfl rfl h]
  rfl

end Cursor

end JsonShape.Yaml
