import JsonShape.Yaml.Cursor
import JsonShape.Yaml.Fault

/-!
# The scalars of YAML text

How the text of a scalar is read in each of the styles: plain, between single or double quotes, and
as a block that is kept or folded.  Each reader returns the text and the cursor after the scalar.
Loops take a fuel, for which the length of the text is enough.
-/

namespace JsonShape.Yaml

/-- A single line feed becomes a space; of several breaks the first is dropped if it is a line feed,
and the others are kept. -/
def folded (first : CodePoint) (others : Text) : Text :=
  if first = '\n' then (if others = [] then " " else others) else first :: others

/-! ### Plain scalars -/

/-- The indicators of flow collections. -/
def isBracket (c : CodePoint) : Bool := c = '[' || c = ']' || c = '\x7b' || c = '\x7d'

/-- Whether a plain scalar stops at the front of the text.  In flow collections it also stops at
their indicators. -/
def plainStops (flow : Bool) : Text → Bool
  | [] => true
  | c :: rest =>
    isBreak c || isBlank c
      || (c = ':' && atBreakOr (fun d => isBlank d || (flow && (d = ',' || isBracket d))) rest)
      || (flow && (c = ',' || c = '?' || isBracket c))

/-- The number of code points up to the next stop. -/
def plainLength (flow : Bool) : Text → Nat
  | [] => 0
  | c :: rest => if plainStops flow (c :: rest) then 0 else plainLength flow rest + 1

/-- What stands between two words of a plain scalar: the text it is read as, empty at the end of the
scalar, and whether a line has been left behind. -/
structure PlainGap where
  text : Text
  cursor : Cursor
  newLine : Bool

/-- The breaks after a first one, with the spaces between them skipped; or the cursor at the marker
of a document that is met there. -/
def plainBreaks : (fuel : Nat) → Cursor → Except Cursor (Text × Cursor)
  | 0, c => .ok ([], c)
  | fuel + 1, c =>
    let c := c.skip isSpace
    match c.takeBreak? with
    | none => .ok ([], c)
    | some (b, c) =>
      if Cursor.atSeparator c.rest then .error c
      else
        match plainBreaks fuel c with
        | .ok (bs, c) => .ok (b :: bs, c)
        | .error c => .error c

/-- The gap at a cursor. -/
def plainGap (c : Cursor) : PlainGap :=
  let (spaces, c) := c.span isSpace
  match c.takeBreak? with
  | none => ⟨spaces, c, false⟩
  | some (b, c) =>
    if Cursor.atSeparator c.rest then ⟨[], c, true⟩
    else
      match plainBreaks (c.rest.length + 1) c with
      | .ok (bs, c) => ⟨folded b bs, c, true⟩
      | .error c => ⟨[], c, true⟩

/-- Whether a comment starts at the front of the text. -/
def atComment (t : Text) : Bool := t.head? = some ('#' : CodePoint)

/-- The words of a plain scalar from a cursor on, each with the gap before it; the cursor after the
gap that follows them, and whether that has left a line behind. -/
def plainWords (flow : Bool) (indent : Int) :
    (fuel : Nat) → (before : PlainGap) → Text × Cursor × Bool
  | 0, g => ([], g.cursor, g.newLine)
  | fuel + 1, g =>
    let n := plainLength flow g.cursor.rest
    if atComment g.cursor.rest || n = 0 then ([], g.cursor, g.newLine)
    else
      let word := g.cursor.rest.take n
      let after := plainGap (g.cursor.advance n)
      if after.text = [] || (!flow && (after.cursor.column : Int) < indent) then
        (g.text ++ word, after.cursor, after.newLine)
      else
        let (words, c, newLine) := plainWords flow indent fuel after
        (g.text ++ word ++ words, c, newLine)

/-- The plain scalar at a cursor: its text, the cursor after it, and whether a line has been left
behind there.  In block context, a line starts left of `indent` only after its end. -/
def plainScalar (flow : Bool) (indent : Int) (c : Cursor) : Text × Cursor × Bool :=
  plainWords flow indent (c.rest.length + 1) ⟨[], c, false⟩

/-! ### Quoted scalars -/

/-- The breaks after a first one inside quotes, with the blanks between them skipped.  The marker of
a document may not come there. -/
def quotedBreaks : (fuel : Nat) → Cursor → Except Fault (Text × Cursor)
  | 0, c => .ok ([], c)
  | fuel + 1, c =>
    if Cursor.atSeparator c.rest then .error .malformed
    else
      let c := c.skip isBlank
      match c.takeBreak? with
      | none => .ok ([], c)
      | some (b, c) =>
        match quotedBreaks fuel c with
        | .ok (bs, c) => .ok (b :: bs, c)
        | .error e => .error e

/-- The blanks and breaks at a cursor inside quotes. -/
def quotedGap (c : Cursor) : Except Fault (Text × Cursor) :=
  let (blanks, c) := c.span isBlank
  if c.rest = [] then .error .malformed
  else
    match c.takeBreak? with
    | none => .ok (blanks, c)
    | some (b, c) =>
      match quotedBreaks (c.rest.length + 1) c with
      | .ok (bs, c) => .ok (folded b bs, c)
      | .error e => .error e

/-- Puts a text in front of what is read after it. -/
def prepend (t : Text) : Except Fault (Text × Cursor) → Except Fault (Text × Cursor)
  | .ok (s, c) => .ok (t ++ s, c)
  | .error e => .error e

/-- The rest of a scalar between single quotes: a quote is written twice. -/
def singleQuoted : (fuel : Nat) → Cursor → Except Fault (Text × Cursor)
  | 0, _ => .error .malformed
  | fuel + 1, c =>
    match c.rest with
    | [] => .error .malformed
    | x :: rest =>
      if x = '\'' then
        if rest.head? = some ('\'' : CodePoint) then prepend "'" (singleQuoted fuel (c.advance 2))
        else .ok ([], c.next)
      else if isBlank x || isBreak x then
        match quotedGap c with
        | .ok (t, c) => prepend t (singleQuoted fuel c)
        | .error e => .error e
      else prepend [x] (singleQuoted fuel c.next)

/-- What the code point after a backslash stands for. -/
def escape? (e : CodePoint) : Option CodePoint :=
  if e = '0' then some 0
  else if e = 'a' then some 7
  else if e = 'b' then some 8
  else if e = 't' || e = '\t' then some 9
  else if e = 'n' then some 10
  else if e = 'v' then some 11
  else if e = 'f' then some 12
  else if e = 'r' then some 13
  else if e = 'e' then some 27
  else if e = ' ' || e = '"' || e = '\\' || e = '/' then some e
  else if e = 'N' then some '\x85'
  else if e = '_' then some '\xA0'
  else if e = 'L' then some '\u2028'
  else if e = 'P' then some '\u2029'
  else none

/-- The number of hexadecimal digits after an escape that spells a code point. -/
def escapeLength? (e : CodePoint) : Option Nat :=
  if e = 'x' then some 2 else if e = 'u' then some 4 else if e = 'U' then some 8 else none

/-- The number that hexadecimal digits spell. -/
def hexNumber? (digits : Text) : Option Nat :=
  digits.foldl (fun n c => n.bind fun n => c.hexValue?.map (16 * n + ·)) (some 0)

/-- The code point of an escape of `n` digits at the front of a text. -/
def spelt (n : Nat) (t : Text) : Except Fault CodePoint :=
  if t.length < n then .error .malformed
  else
    match hexNumber? (t.take n) with
    | none => .error .malformed
    | some v =>
      if h : v < 0x110000 then .ok ⟨v, h⟩
      else if v < 0x80000000 then .error .noCodePoint
      else .error .hugeCodePoint

/-- The rest of a scalar between double quotes. -/
def doubleQuoted : (fuel : Nat) → Cursor → Except Fault (Text × Cursor)
  | 0, _ => .error .malformed
  | fuel + 1, c =>
    match c.rest with
    | [] => .error .malformed
    | x :: rest =>
      if x = '"' then .ok ([], c.next)
      else if x = '\\' then
        match rest with
        | [] => .error .malformed
        | e :: digits =>
          if let some y := escape? e then prepend [y] (doubleQuoted fuel (c.advance 2))
          else if let some n := escapeLength? e then
            match spelt n digits with
            | .ok y => prepend [y] (doubleQuoted fuel (c.advance (n + 2)))
            | .error f => .error f
          else if isBreak e then
            let c := c.next.skipBreak
            match quotedBreaks (c.rest.length + 1) c with
            | .ok (t, c) => prepend t (doubleQuoted fuel c)
            | .error f => .error f
          else .error .malformed
      else if isBlank x || isBreak x then
        match quotedGap c with
        | .ok (t, c) => prepend t (doubleQuoted fuel c)
        | .error f => .error f
      else prepend [x] (doubleQuoted fuel c.next)

/-! ### Block scalars -/

/-- What becomes of the breaks at the end of a block scalar. -/
inductive Chomping
  | strip
  | clip
  | keep
deriving DecidableEq

/-- The chomping that an indicator asks for. -/
def chomping? (c : CodePoint) : Option Chomping :=
  if c = '+' then some .keep else if c = '-' then some .strip else none

/-- The chomping indicator at a cursor, if there is one. -/
def takeChomping (c : Cursor) : Chomping × Cursor :=
  match c.rest.head?.bind chomping? with
  | some k => (k, c.next)
  | none => (.clip, c)

/-- The indentation indicator at a cursor, if there is one; it may not be zero. -/
def takeIndentation (c : Cursor) : Except Fault (Option Nat × Cursor) :=
  match c.rest.head?.filter CodePoint.isDigit with
  | none => .ok (none, c)
  | some d => if d = '0' then .error .malformed else .ok (some d.digitValue, c.next)

/-- The two indicators after the mark of a block scalar, in either order. -/
def blockIndicators (c : Cursor) : Except Fault (Chomping × Option Nat × Cursor) :=
  if (c.rest.head?.bind chomping?).isSome then do
    let (k, c) := takeChomping c
    let (n, c) ← takeIndentation c
    .ok (k, n, c)
  else do
    let (n, c) ← takeIndentation c
    if n.isNone then .ok (.clip, none, c)
    else
      let (k, c) := takeChomping c
      .ok (k, n, c)

/-- The rest of a line that holds at most a comment, and its break. -/
def endLine (c : Cursor) : Except Fault Cursor :=
  let c := c.skip isSpace
  let c := if atComment c.rest then c.skip (!isBreak ·) else c
  if atBreak c.rest then .ok c.skipBreak else .error .malformed

/-- Skips spaces up to the column `indent`. -/
def skipIndent (indent : Nat) (c : Cursor) : Cursor :=
  c.advance (min (c.rest.takeWhile isSpace).length (indent - c.column))

/-- The breaks of empty lines. -/
def blockBreaks (indent : Nat) : (fuel : Nat) → Cursor → Text × Cursor
  | 0, c => ([], c)
  | fuel + 1, c =>
    let c := skipIndent indent c
    match c.takeBreak? with
    | none => ([], c)
    | some (b, c) =>
      let (bs, c) := blockBreaks indent fuel c
      (b :: bs, c)

/-- The breaks before the first line with text, and the largest column met on the way. -/
def blockLead : (fuel deepest : Nat) → Cursor → Text × Nat × Cursor
  | 0, deepest, c => ([], deepest, c)
  | fuel + 1, deepest, c =>
    if c.rest.head? = some (' ' : CodePoint) then
      blockLead fuel (max deepest c.next.column) c.next
    else
      match c.takeBreak? with
      | none => ([], deepest, c)
      | some (b, c) =>
        let (bs, deepest, c) := blockLead fuel deepest c
        (b :: bs, deepest, c)

/-- The lines of a block scalar. -/
structure BlockLines where
  /-- The text up to the end of the last line. -/
  text : Text
  /-- The break that ends the last line. -/
  ending : Text
  /-- The breaks of the empty lines after it. -/
  trailing : Text
  cursor : Cursor

/-- Whether a blank stands at the front of the text. -/
def startsBlank (t : Text) : Bool := t.head?.any isBlank

/-- The lines from a cursor on, after some empty ones.  In a folded scalar the break between two
lines that start with text is folded. -/
def blockLines (folds : Bool) (indent : Nat) : (fuel : Nat) → (empty : Text) → Cursor → BlockLines
  | 0, empty, c => ⟨[], [], empty, c⟩
  | fuel + 1, empty, c =>
    if c.column ≠ indent || c.rest = [] then ⟨[], [], empty, c⟩
    else
      let indented := startsBlank c.rest
      let (line, c) := c.span (!isBreak ·)
      let (ending, c) : Text × Cursor := match c.takeBreak? with
        | some (b, c) => ([b], c)
        | none => ([], c)
      let (breaks, c) := blockBreaks indent (c.rest.length + 1) c
      if c.column = indent && c.rest ≠ [] then
        let between : Text :=
          if folds && ending = Text.ofString "\n" && !indented && !startsBlank c.rest then
            (if breaks = [] then " " else [])
          else ending
        let more := blockLines folds indent fuel breaks c
        { more with text := empty ++ line ++ between ++ more.text }
      else ⟨empty ++ line, ending, breaks, c⟩

/-- The block scalar whose mark stands at the cursor, inside a collection of the given
indentation. -/
def blockScalar (folds : Bool) (parent : Int) (c : Cursor) : Except Fault (Text × Cursor) := do
  let (chomp, width, c) ← blockIndicators c.next
  if !atBreakOr isSpace c.rest then .error .malformed
  let c ← endLine c
  let least := (max (parent + 1) 1).toNat
  let (empty, indent, c) := match width with
    | none =>
      let (empty, deepest, c) := blockLead (c.rest.length + 1) 0 c
      (empty, max least deepest, c)
    | some w =>
      let indent := least + w - 1
      let (empty, c) := blockBreaks indent (c.rest.length + 1) c
      (empty, indent, c)
  let lines := blockLines folds indent (c.rest.length + 1) empty c
  let tail := match chomp with
    | .strip => []
    | .clip => lines.ending
    | .keep => lines.ending ++ lines.trailing
  .ok (lines.text ++ tail, lines.cursor)

end JsonShape.Yaml
