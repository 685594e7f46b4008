import JsonShape.Number.Numeral
import JsonShape.Text.Printable

/-!
# Quoted literals of texts

`Text.literal` writes a text between quotes so that each code point can be told: what cannot be
printed is escaped.
-/

namespace JsonShape

/-- The quote around a text: the single one, unless it occurs and the double one does not. -/
def quoteFor (t : Text) : CodePoint :=
  if t.contains ('\'' : CodePoint) && !t.contains ('"' : CodePoint) then '"' else '\''

/-- A code point between quotes of the given kind. -/
def literalPoint (quote c : CodePoint) : Text :=
  if c = quote ∨ c = '\\' then [('\\' : CodePoint), c]
  else if c = '\t' then "\\t"
  else if c = '\n' then "\\n"
  else if c = '\r' then "\\r"
  else if c.isPrintable then [c]
  else if c.val < 0x100 then "\\x" ++ Numeral.hex 2 c.val
  else if c.val < 0x10000 then "\\u" ++ Numeral.hex 4 c.val
  else "\\U" ++ Numeral.hex 8 c.val

/-- A text between quotes. -/
def Text.literal (t : Text) : Text :=
  let quote := quoteFor t
  [quote] ++ t.flatMap (literalPoint quote) ++ [quote]

/-- Bytes between quotes; the printable ones of ASCII stand for themselves. -/
def bytesLiteral (bytes : List UInt8) : Text :=
  let t : Text := bytes.map fun b => .ofNat b.toNat
  let quote := quoteFor t
  let point (c : CodePoint) : Text :=
    if c.val < 0x7F then literalPoint quote c else "\\x" ++ Numeral.hex 2 c.val
  "b" ++ [quote] ++ t.flatMap point ++ [quote]

end JsonShape
