import JsonShape.Yaml.Tag

/-!
# Writing YAML scalars

A text as the value of a key, in ASCII.  It is plain if it would be read back as the same text,
between single quotes if not, and between double quotes if it has code points that only an escape
can write.  Lines longer than `maxColumn` are folded at single spaces.
-/

namespace JsonShape.Yaml

/-- Lines are folded after this column. -/
def maxColumn : Nat := 80

/-- What a folded line starts with, after the break. -/
def foldIndent : Text := "  "

/-! ### The choice of a style -/

/-- A code point that is neither a line feed nor printable ASCII. -/
def isSpecial (c : CodePoint) : Bool := c ≠ '\n' && !(0x20 ≤ c.val && c.val ≤ 0x7E)

def isLineFeed (c : CodePoint) : Bool := c = '\n'

/-- Whether somewhere `p` holds of a code point and `q` of the next one. -/
def hasPair (p q : CodePoint → Bool) : Text → Bool
  | a :: b :: rest => (p a && q b) || hasPair p q (b :: rest)
  | _ => false

/-- Whether only double quotes can write the text. -/
def needsEscapes (t : Text) : Bool :=
  t.any isSpecial || hasPair isSpaceChar isLineFeed t || hasPair isLineFeed isSpaceChar t
where
  isSpaceChar (c : CodePoint) : Bool := c = ' '

/-- A space or a line feed, or the end of the text. -/
def atWhite : Text → Bool
  | [] => true
  | c :: _ => c = ' ' || c = '\n'

/-- Whether the text starts like something else than a plain scalar. -/
def startsOdd : Text → Bool
  | [] => true
  | c :: rest =>
    (Text.ofString "#,[]\x7b\x7d&*!|>'\"%@\x60").contains c
      || ((c = '?' || c = ':' || c = '-') && atWhite rest)

/-- Whether a colon before a gap, or a comment after one, comes after the first code point. -/
def hasIndicator : Text → Bool
  | a :: b :: rest =>
    (b = ':' && atWhite rest) || (b = '#' && (a = ' ' || a = '\n')) || hasIndicator (b :: rest)
  | _ => false

/-- Whether the text needs quotes. -/
def needsQuotes (t : Text) : Bool :=
  t = [] || t.any isLineFeed || t.head? = some (' ' : CodePoint)
    || t.getLast? = some (' ' : CodePoint) || (t.after? "---").isSome || (t.after? "...").isSome
    || startsOdd t || hasIndicator t || Tag.ofPlain t ≠ .str

/-! ### Plain and single-quoted scalars -/

/-- Whether a space between two code points stands alone and a line may end there. -/
def foldsHere (before : Option CodePoint) (after : Text) : Bool :=
  before.any (· ≠ (' ' : CodePoint)) && after.head?.any (· ≠ (' ' : CodePoint))

/-- Writes a text from a column on, after the code point `before`.  A run of line feeds has one more
of them in front, and quotes are doubled if they are to be. -/
def foldedText (doubled : Bool) : (before : Option CodePoint) → (column : Nat) → Text → Text
  | _, _, [] => []
  | before, column, c :: rest =>
    if c = ' ' && maxColumn < column && foldsHere before rest then
      "\n" ++ foldIndent ++ foldedText doubled (some c) foldIndent.length rest
    else if c = '\n' then
      let feeds : Text := if before = some '\n' then "\n" else "\n\n"
      if rest.head? = some ('\n' : CodePoint) then feeds ++ foldedText doubled (some c) 0 rest
      else feeds ++ foldIndent ++ foldedText doubled (some c) foldIndent.length rest
    else if doubled && c = '\'' then "''" ++ foldedText doubled (some c) (column + 2) rest
    else c :: foldedText doubled (some c) (column + 1) rest

/-! ### Double-quoted scalars -/

/-- The letters of the short escapes. -/
def shortEscapes : List (CodePoint × CodePoint) :=
  [('\x00', '0'), ('\x07', 'a'), ('\x08', 'b'), ('\t', 't'), ('\n', 'n'), ('\x0B', 'v'),
    ('\x0C', 'f'), ('\r', 'r'), ('\x1B', 'e'), ('"', '"'), ('\\', '\\'), ('\x85', 'N'),
    ('\xA0', '_'), ('\u2028', 'L'), ('\u2029', 'P')]

/-- Hexadecimal digits in capitals. -/
def capitalHex (width n : Nat) : Text := (Numeral.hex width n).map CodePoint.upperAscii

/-- Whether a code point is written as an escape. -/
def isEscaped (c : CodePoint) : Bool :=
  c = '"' || c = '\\' || !(0x20 ≤ c.val && c.val ≤ 0x7E)

/-- The escape of a code point. -/
def escapeText (c : CodePoint) : Text :=
  match shortEscapes.lookup c with
  | some letter => [('\\' : CodePoint), letter]
  | none =>
    if c.val < 0x100 then "\\x" ++ capitalHex 2 c.val
    else if c.val < 0x10000 then "\\u" ++ capitalHex 4 c.val
    else "\\U" ++ capitalHex 8 c.val

/-- A fold between double quotes: a backslash ends the line, and another one keeps a space at the
start of the next. -/
def foldBefore (next : Option CodePoint) : Text :=
  "\\\n" ++ foldIndent ++ (if next = some ' ' then Text.ofString "\\" else [])

/-- The column after such a fold. -/
def columnAfterFold (next : Option CodePoint) : Nat :=
  foldIndent.length + (if next = some ' ' then 1 else 0)

/-- Writes a text from a column on.  `pending` is what has been passed and not been written yet; a
line may end before a space and after an escape, but not at the first code point nor at the last. -/
def escapedText : (first : Bool) → (pending : Text) → (column : Nat) → Text → Text
  | _, pending, _, [] => pending
  | first, pending, column, c :: rest =>
    let inner := !first && !rest.isEmpty
    if isEscaped c then
      let written := pending ++ escapeText c
      let column := column + written.length
      if inner && maxColumn + 1 < column then
        written ++ foldBefore rest.head? ++ escapedText false [] (columnAfterFold rest.head?) rest
      else written ++ escapedText false [] column rest
    else if inner && (c = ' ' || pending.isEmpty) && maxColumn < column + pending.length then
      pending ++ foldBefore (some c) ++ escapedText false [c] (columnAfterFold (some c)) rest
    else escapedText false (pending ++ [c]) column rest

/-! ### Entries -/

/-- A text as it is written from a column on. -/
def scalarText (column : Nat) (t : Text) : Text :=
  if needsEscapes t then "\"" ++ escapedText true [] (column + 1) t ++ "\""
  else if needsQuotes t then "'" ++ foldedText true none (column + 1) t ++ "'"
  else foldedText false none column t

/-- The line of a key and a text. -/
def textEntry (key t : Text) : Text := key ++ ": " ++ scalarText (key.length + 2) t ++ "\n"

/-- The line of a key and a truth value. -/
def boolEntry (key : Text) (b : Bool) : Text :=
  key ++ ": " ++ (if b then Text.ofString "true" else "false") ++ "\n"

end JsonShape.Yaml
