import JsonShape.Terminal.Grapheme
import JsonShape.Text.Blank

/-!
# Styled text

A text with the spans that carry a style.  The styles themselves are not shown; but where a span
starts or stops a text is printed in separate runs, and a run is measured by itself.  A layout keeps
the styles of the spans that are left.
-/

namespace JsonShape

/-- The places of a text from `start` on and before `stop`, and the name of a style for them. -/
structure Span where
  start : Nat
  stop : Nat
  style : Text

namespace Span

/-- The span in a text that has `n` more places before it. -/
def shift (n : Nat) (s : Span) : Span := ⟨s.start + n, s.stop + n, s.style⟩

/-- What of a span lies before a place, if it starts there. -/
def before? (n : Nat) (s : Span) : Option Span :=
  if s.start < n then some ⟨s.start, min n s.stop, s.style⟩ else none

/-- What of a span lies in a slice of its text, if that is not empty. -/
def within? (start length : Nat) (s : Span) : Option Span :=
  let part : Span := ⟨s.start - start, min (s.stop - start) length, s.style⟩
  if part.start < part.stop then some part else none

end Span

/-- A text and the spans of it that carry a style. -/
structure Styled where
  text : Text
  spans : List Span := []

namespace Styled

instance : Append Styled :=
  ⟨fun a b => ⟨a.text ++ b.text, a.spans ++ b.spans.map (Span.shift a.text.length)⟩⟩

/-- All of some texts, one after the other. -/
def concat (parts : List Styled) : Styled := parts.foldl (· ++ ·) ⟨[], []⟩

/-- The same spans over another text, as far as it reaches. -/
def withText (t : Text) (s : Styled) : Styled :=
  ⟨t, if t.length < s.text.length then s.spans.filterMap (Span.before? t.length) else s.spans⟩

/-! ### Parts -/

/-- The parts of a text from a place on, with `gap` places left out after each; a part keeps what
of the spans lies in it. -/
def slices (spans : List Span) (gap : Nat) : (start : Nat) → List Text → List Styled
  | _, [] => []
  | start, p :: ps =>
    ⟨p, spans.filterMap (Span.within? start p.length)⟩
      :: slices spans gap (start + p.length + gap) ps

/-- A text in parts; one that is its only part stays as it is. -/
def inParts (gap : Nat) (parts : List Text) (s : Styled) : List Styled :=
  match parts with
  | [_] => [s]
  | _ => slices s.spans gap 0 parts

/-- The lines of a text. -/
def lines (s : Styled) : List Styled := s.inParts 1 (s.text.split '\n')

/-! ### Tabs -/

/-- The cells between tab stops. -/
def tabSize : Nat := 8

/-- A text cut after every tab. -/
def splitAfterTabs : Text → List Text
  | [] => []
  | c :: t =>
    if c = '\t' then [c] :: splitAfterTabs t
    else
      match splitAfterTabs t with
      | [] => [[c]]
      | p :: ps => (c :: p) :: ps

/-- A part with `n` spaces more; spans that reach its end are drawn out. -/
def drawnOut (n : Nat) (s : Styled) : Styled :=
  let stretch (p : Span) : Span :=
    if s.text.length ≤ p.stop then ⟨p.start, p.stop + n, p.style⟩ else p
  ⟨s.text ++ Text.spaces n, s.spans.map stretch⟩

/-- The parts of a line that ends at a column, with a tab at the end of a part led to the next
stop. -/
def toStops (column : Nat) : List Styled → List Styled
  | [] => []
  | s :: rest =>
    if s.text.getLast? = some '\t' then
      let spaced : Styled := ⟨s.text.dropLast ++ " ", s.spans⟩
      let reached := column + spaced.text.width
      let missing := (tabSize - reached % tabSize) % tabSize
      spaced.drawnOut missing :: toStops (reached + missing) rest
    else s :: toStops (column + s.text.width) rest

/-- A line without tabs: each becomes the spaces to the next stop. -/
def expandTabs (s : Styled) : Styled :=
  if s.text.contains '\t' then
    concat (toStops 0 (slices s.spans 0 0 (splitAfterTabs s.text)))
  else s

/-! ### Runs -/

/-- A text cut at the places that hold. -/
def cutWhere (isSeam : Nat → Bool) : (place : Nat) → Text → List Text
  | _, [] => []
  | n, c :: t =>
    match cutWhere isSeam (n + 1) t with
    | [] => [[c]]
    | r :: rs => if isSeam (n + 1) then [c] :: r :: rs else (c :: r) :: rs

/-- The runs that a text is printed in. -/
def runs (s : Styled) : List Text :=
  cutWhere (fun n => s.spans.any fun p => p.start = n || p.stop = n) 0 s.text

end Styled

/-! ### Runs at a width -/

namespace Runs

/-- The cells of runs; each is measured by itself. -/
def width (runs : List Text) : Nat := runs.foldl (fun n r => n + r.width) 0

/-- The front of runs at a width. -/
def crop : (width : Nat) → List Text → List Text
  | _, [] => []
  | width, r :: rs =>
    if r.width < width then r :: crop (width - r.width) rs else [r.resized width]

/-- Runs at a width: cropped, or with spaces after them. -/
def fit (width : Nat) (runs : List Text) : List Text :=
  let cropped := if width < Runs.width runs then crop width runs else runs
  cropped ++ [Text.spaces (width - Runs.width cropped)]

end Runs

end JsonShape
