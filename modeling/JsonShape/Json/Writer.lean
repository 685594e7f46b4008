import JsonShape.Json
import JsonShape.Number.Shortest

/-!
# Writing JSON text

Values are written in ASCII: a code point from U+0080 on becomes an escape, or a pair of surrogate
escapes above U+FFFF, and a slash is escaped too.  A value is laid out in one line, or with one item
to a line, indented by two spaces a level.
-/

namespace JsonShape.Json

/-! ### Strings -/

/-- The escape of a sixteen-bit unit. -/
def unitText (n : Nat) : Text := "\\u" ++ Numeral.hex 4 n

/-- A code point as it stands between quotes. -/
def escaped (c : CodePoint) : Text :=
  if c = '"' then "\\\""
  else if c = '\\' then "\\\\"
  else if c = '/' then "\\/"
  else if c = '\x08' then "\\b"
  else if c = '\x0C' then "\\f"
  else if c = '\n' then "\\n"
  else if c = '\r' then "\\r"
  else if c = '\t' then "\\t"
  else if c.val < 0x20 ∨ (0x80 ≤ c.val ∧ c.val < 0x10000) then unitText c.val
  else if 0x10000 ≤ c.val then
    unitText (0xD800 + (c.val - 0x10000) / 0x400) ++ unitText (0xDC00 + (c.val - 0x10000) % 0x400)
  else [c]

/-- A text between quotes. -/
def quoted (t : Text) : Text := "\"" ++ t.flatMap escaped ++ "\""

/-! ### Values -/

/-- How the parts of a value are set apart: what stands before an item at a depth, and after a
key. -/
structure Layout where
  lineStart : Nat → Text
  afterKey : Text

/-- Everything in one line, without blanks. -/
def compact : Layout := ⟨fun _ => [], ":"⟩

/-- One item to a line, two spaces a level. -/
def indented : Layout := ⟨fun depth => "\n" ++ Text.spaces (2 * depth), ": "⟩

def Number.text : Number → Text
  | .int i => Numeral.ofInt i
  | .double d => d.text

mutual

/-- The text of a value that stands `depth` levels deep. -/
def text (l : Layout) (depth : Nat) : Json → Text
  | .null => "null"
  | .bool b => if b then "true" else "false"
  | .number n => Number.text n
  | .string s => quoted s
  | .array [] => "[]"
  | .array (x :: xs) =>
    "[" ++ l.lineStart (depth + 1) ++ text l (depth + 1) x ++ itemsText l (depth + 1) xs
      ++ l.lineStart depth ++ "]"
  | .object [] => "\x7b\x7d"
  | .object ((k, x) :: fs) =>
    "\x7b" ++ l.lineStart (depth + 1) ++ quoted k ++ l.afterKey ++ text l (depth + 1) x
      ++ fieldsText l (depth + 1) fs ++ l.lineStart depth ++ "\x7d"

/-- Further items, each after a comma and on a line of its own. -/
def itemsText (l : Layout) (depth : Nat) : List Json → Text
  | [] => []
  | x :: xs => "," ++ l.lineStart depth ++ text l depth x ++ itemsText l depth xs

/-- Further fields, each after a comma and on a line of its own. -/
def fieldsText (l : Layout) (depth : Nat) : List (Text × Json) → Text
  | [] => []
  | (k, x) :: fs =>
    "," ++ l.lineStart depth ++ quoted k ++ l.afterKey ++ text l depth x ++ fieldsText l depth fs

end

/-- The value with one item to a line. -/
def pretty (v : Json) : Text := text indented 0 v

/-- The value in one line. -/
def line (v : Json) : Text := text compact 0 v

end JsonShape.Json
