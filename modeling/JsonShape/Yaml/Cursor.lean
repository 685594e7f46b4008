import JsonShape.Text

/-!
# Places in YAML text

A cursor is what is left of a text together with its line, column and index.  The classes of code
points that YAML text turns on are here too; the end of the text counts as a break.
-/

namespace JsonShape.Yaml

/-- A line break: line feed, carriage return, and the three of Unicode. -/
def isBreak (c : CodePoint) : Bool :=
  c = '\n' || c = '\r' || c.val = 0x85 || c.val = 0x2028 || c.val = 0x2029

/-- A code point that YAML text may hold. -/
def isAllowed (c : CodePoint) : Bool :=
  c.val = 0x09 || c.val = 0x0A || c.val = 0x0D || (0x20 ≤ c.val && c.val ≤ 0x7E) || c.val = 0x85
    || (0xA0 ≤ c.val && c.val ≤ 0xD7FF) || (0xE000 ≤ c.val && c.val ≤ 0xFFFD) || 0x10000 ≤ c.val

def byteOrderMark : CodePoint := '\uFEFF'

def isSpace (c : CodePoint) : Bool := c = ' '

/-- A space or a tab. -/
def isBlank (c : CodePoint) : Bool := c = ' ' || c = '\t'

/-- Whether the text is at its end or at a break. -/
def atBreak : Text → Bool
  | [] => true
  | c :: _ => isBreak c

/-- Whether the text is at its end, at a break, or at one of some other code points. -/
def atBreakOr (others : CodePoint → Bool) : Text → Bool
  | [] => true
  | c :: _ => isBreak c || others c

/-- Whether the text is at its end, a break, a space or a tab. -/
def atGap (t : Text) : Bool := atBreakOr isBlank t

/-- A letter, a digit, a hyphen or an underscore. -/
def isWordChar (c : CodePoint) : Bool := c.isLetter || c.isDigit || c = '-' || c = '_'

/-- A place in a text. -/
structure Cursor where
  rest : Text
  index : Nat
  line : Nat
  column : Nat

namespace Cursor

def start (t : Text) : Cursor := ⟨t, 0, 0, 0⟩

/-- One code point further.  A byte order mark takes no column, and a return before a line feed
leaves the line to it. -/
def next (c : Cursor) : Cursor :=
  match c.rest with
  | [] => c
  | x :: rest =>
    if isBreak x && !(x = '\r' && rest.head? = some ('\n' : CodePoint)) then
      ⟨rest, c.index + 1, c.line + 1, 0⟩
    else ⟨rest, c.index + 1, c.line, if x = byteOrderMark then c.column else c.column + 1⟩

/-- `n` code points further. -/
def advance : Nat → Cursor → Cursor
  | 0, c => c
  | n + 1, c => advance n c.next

/-- The code points at the front that satisfy `p`, and the cursor after them. -/
def span (p : CodePoint → Bool) (c : Cursor) : Text × Cursor :=
  let taken := c.rest.takeWhile p
  (taken, c.advance taken.length)

def skip (p : CodePoint → Bool) (c : Cursor) : Cursor := (c.span p).2

/-- The break at the cursor, with all but the two separators of Unicode read as a line feed, and the
cursor after it. -/
def takeBreak? (c : Cursor) : Option (CodePoint × Cursor) :=
  match c.rest with
  | [] => none
  | x :: rest =>
    if x = '\r' && rest.head? = some ('\n' : CodePoint) then some ('\n', c.advance 2)
    else if x = '\n' || x = '\r' || x.val = 0x85 then some ('\n', c.next)
    else if x.val = 0x2028 || x.val = 0x2029 then some (x, c.next)
    else none

/-- The cursor after a break, if one is there. -/
def skipBreak (c : Cursor) : Cursor := (c.takeBreak?).elim c (·.2)

/-- Whether a line of the given three points, and nothing else, starts here. -/
def atMarker (mark : CodePoint) (t : Text) : Bool :=
  match t with
  | a :: b :: d :: rest => a = mark && b = mark && d = mark && atGap rest
  | _ => false

/-- Whether the marker of a document's start or end is here. -/
def atSeparator (t : Text) : Bool := atMarker '-' t || atMarker '.' t

end Cursor

end JsonShape.Yaml
