import JsonShape.Text

/-!
# Control sequences

A control sequence tells a terminal what to do: an escape, a bracket, numbers, and a letter that
ends it.  Output that goes elsewhere is written without them.
-/

namespace JsonShape.Sequence

/-- Whether a character may stand before the letter of a control sequence. -/
def isParameter (c : CodePoint) : Bool := c.isDigit || c = ';' || c = '?'

/-- What follows a control sequence at the front of a text. -/
def after? : Text → Option Text
  | e :: b :: t =>
    if e = '\x1b' && b = '[' then
      match t.dropWhile isParameter with
      | [] => none
      | c :: rest => if c.isLetter then some rest else none
    else none
  | _ => none

theorem length_after? {t rest : Text} (h : after? t = some rest) : rest.length < t.length := by
  match t with
  | [] => simp [after?] at h
  | [_] => simp [after?] at h
  | e :: b :: t =>
    simp only [after?] at h
    split at h
    · split at h
      · simp at h
      · rename_i c r hr
        split at h
        · have := (t.dropWhile_suffix isParameter).length_le
          rw [hr] at this
          simp_all
          omega
        · simp at h
    · simp at h

/-- **A text without control sequences.** -/
def strip (t : Text) : Text :=
  match _h : after? t with
  | some rest => strip rest
  | none =>
    match t with
    | [] => []
    | c :: rest => c :: strip rest
termination_by t.length
decreasing_by
  · exact length_after? (by assumption)
  · simp

end JsonShape.Sequence
