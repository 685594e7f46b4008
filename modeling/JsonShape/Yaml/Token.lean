import JsonShape.Text.Utf8
import JsonShape.Yaml.Scalar

/-!
# The tokens of YAML text

`Token.scan` cuts a text into tokens.  Whether a node is the key of a mapping shows only at the
colon after it, so the lexer remembers where a key may have started and inserts the token for it
there. Indentation opens and closes block collections; each has its own tokens.
-/

namespace JsonShape.Yaml

/-- A token.  The last one of a scan is the end of the stream or a fault. -/
inductive Token
  | version (major : Nat)
  | handle (name uri : Text)
  | directive
  | documentStart
  | documentEnd
  | blockSequenceStart
  | blockMappingStart
  | blockEnd
  | flowSequenceStart
  | flowSequenceEnd
  | flowMappingStart
  | flowMappingEnd
  | blockEntry
  | flowEntry
  | key
  | value
  | alias (name : Text)
  | anchor (name : Text)
  | tag (handle : Option Text) (suffix : Text)
  | scalar (text : Text) (plain : Bool)
  | streamEnd
  | fault (fault : Fault)

/-! ### Words, tags and directives -/

/-- One or more letters, digits, hyphens and underscores. -/
def takeWord (c : Cursor) : Except Fault (Text × Cursor) :=
  let (word, c) := c.span isWordChar
  if word = [] then .error .malformed else .ok (word, c)

/-- What may follow the name of an anchor or an alias. -/
def endsAnchor (c : CodePoint) : Bool :=
  isBlank c || c = '?' || c = ':' || c = ',' || c = ']' || c = '\x7d' || c = '%' || c = '@'
    || c = '\x60'

/-- The name after the mark of an anchor or an alias. -/
def takeAnchor (c : Cursor) : Except Fault (Text × Cursor) := do
  let (name, c) ← takeWord c.next
  if atBreakOr endsAnchor c.rest then .ok (name, c) else .error .malformed

/-- A code point of the names of tags, the escape mark apart. -/
def isUriChar (c : CodePoint) : Bool :=
  c.isLetter || c.isDigit || (Text.ofString "-;/?:@&=+$,_.!~*'()[]").contains c

/-- The bytes that a run of escapes spells. -/
def uriBytes : (fuel : Nat) → Cursor → Except Fault (Bytes × Cursor)
  | 0, c => .ok ([], c)
  | fuel + 1, c =>
    match c.rest with
    | mark :: a :: b :: _ =>
      if mark = '%' then
        match a.hexValue?, b.hexValue? with
        | some a, some b => do
          let (bs, c) ← uriBytes fuel (c.advance 3)
          .ok ((16 * a + b).toUInt8 :: bs, c)
        | _, _ => .error .malformed
      else .ok ([], c)
    | mark :: _ => if mark = '%' then .error .malformed else .ok ([], c)
    | [] => .ok ([], c)

/-- The rest of the name of a tag. -/
def uriRest : (fuel : Nat) → Cursor → Except Fault (Text × Cursor)
  | 0, c => .ok ([], c)
  | fuel + 1, c =>
    let (plain, c) := c.span isUriChar
    if c.rest.head? = some ('%' : CodePoint) then do
      let (bytes, c) ← uriBytes c.rest.length c
      match Utf8.decode bytes with
      | none => .error .malformed
      | some t =>
        let (more, c) ← uriRest fuel c
        .ok (plain ++ t ++ more, c)
    else .ok (plain, c)

/-- The name of a tag, of one code point at least. -/
def takeUri (c : Cursor) : Except Fault (Text × Cursor) :=
  if c.rest.head?.any fun x => isUriChar x || x = '%' then uriRest (c.rest.length + 1) c
  else .error .malformed

/-- The handle of a tag: an exclamation mark, or a word between two. -/
def takeHandle (c : Cursor) : Except Fault (Text × Cursor) :=
  match c.rest with
  | mark :: rest =>
    if mark ≠ '!' then .error .malformed
    else if rest.head? = some (' ' : CodePoint) then .ok ("!", c.next)
    else
      let (word, c) := c.next.span isWordChar
      if c.rest.head? = some ('!' : CodePoint) then .ok ("!" ++ word ++ "!", c.next)
      else .error .malformed
  | [] => .error .malformed

/-- Whether another exclamation mark comes before the next gap. -/
def hasSecondMark (t : Text) : Bool :=
  (t.takeWhile fun c => !(isBreak c || isSpace c)).contains ('!' : CodePoint)

/-- A tag. -/
def takeTag (c : Cursor) : Except Fault (Token × Cursor) := do
  let rest := c.next.rest
  let (token, c) ←
    if rest.head? = some ('<' : CodePoint) then do
      let (uri, c) ← takeUri (c.advance 2)
      if c.rest.head? = some ('>' : CodePoint) then .ok (Token.tag none uri, c.next)
      else .error Fault.malformed
    else if atGap rest then .ok (Token.tag none "!", c.next)
    else do
      let (handle, c) ←
        if hasSecondMark rest then takeHandle c else .ok (Text.ofString "!", c.next)
      let (suffix, c) ← takeUri c
      .ok (Token.tag (some handle) suffix, c)
  if atBreakOr isSpace c.rest then .ok (token, c) else .error .malformed

/-- One or more digits. -/
def takeNumber (c : Cursor) : Except Fault (Nat × Cursor) :=
  let (digits, c) := c.span CodePoint.isDigit
  if digits = [] then .error .malformed
  else if Numeral.maxDigits < digits.length then
    .error (.badInteger (.tooManyDigits digits.length))
  else .ok (Numeral.value digits, c)

/-- The version after the word of a directive. -/
def takeVersion (c : Cursor) : Except Fault (Token × Cursor) := do
  let (major, c) ← takeNumber (c.skip isSpace)
  if c.rest.head? ≠ some ('.' : CodePoint) then .error .malformed
  let (_, c) ← takeNumber c.next
  if atBreakOr isSpace c.rest then .ok (.version major, c) else .error .malformed

/-- The handle after the word of a directive, and the name it stands for. -/
def takeHandleUri (c : Cursor) : Except Fault (Token × Cursor) := do
  let (name, c) ← takeHandle (c.skip isSpace)
  if c.rest.head? ≠ some (' ' : CodePoint) then .error .malformed
  let (uri, c) ← takeUri (c.skip isSpace)
  if atBreakOr isSpace c.rest then .ok (.handle name uri, c) else .error .malformed

/-- A directive, to the end of its line. -/
def takeDirective (c : Cursor) : Except Fault (Token × Cursor) := do
  let (name, c) ← takeWord c.next
  if !atBreakOr isSpace c.rest then .error .malformed
  let (token, c) ←
    if name = Text.ofString "YAML" then takeVersion c
    else if name = Text.ofString "TAG" then takeHandleUri c
    else .ok (.directive, c.skip (!isBreak ·))
  let c ← endLine c
  .ok (token, c)

/-! ### The lexer -/

/-- A place where a key may have started. -/
structure KeyStart where
  /-- The number of tokens before it. -/
  number : Nat
  /-- A colon has to follow, for the node starts a line of a block mapping. -/
  required : Bool
  index : Nat
  line : Nat
  column : Nat

/-- The state between two tokens. -/
structure Lexer where
  cursor : Cursor
  tokens : List Token
  /-- The number of flow collections that are open. -/
  flow : Nat
  /-- The column of the innermost block collection, and those of the ones around it. -/
  indent : Int
  indents : List Int
  /-- A key may start here. -/
  keyAllowed : Bool
  /-- The last place in each open flow collection, and outside all, where a key may have started. -/
  keys : List (Nat × KeyStart)

namespace Lexer

def start (t : Text) : Lexer :=
  { cursor := .start t, tokens := [], flow := 0, indent := -1, indents := [], keyAllowed := true,
    keys := [] }

def push (l : Lexer) (t : Token) : Lexer := { l with tokens := l.tokens ++ [t] }

/-- Inserts a token after the first `n`. -/
def insert (l : Lexer) (n : Nat) (t : Token) : Lexer :=
  { l with tokens := l.tokens.take n ++ t :: l.tokens.drop n }

def inBlock (l : Lexer) : Bool := l.flow = 0

/-- Whether a key that started there can no longer end here: it stays on a line and is not long. -/
def isStale (c : Cursor) (k : KeyStart) : Bool := k.line ≠ c.line || 1024 < c.index - k.index

/-- Forgets the places of keys that can no longer end. -/
def dropStale (l : Lexer) : Except Fault Lexer :=
  if l.keys.any fun k => isStale l.cursor k.2 && k.2.required then .error .malformed
  else .ok { l with keys := l.keys.filter fun k => !isStale l.cursor k.2 }

/-- Forgets where a key may have started on the current level. -/
def dropKey (l : Lexer) : Except Fault Lexer :=
  if l.keys.any fun k => k.1 = l.flow && k.2.required then .error .malformed
  else .ok { l with keys := l.keys.filter fun k => k.1 ≠ l.flow }

/-- Remembers that a key may start here. -/
def saveKey (l : Lexer) : Except Fault Lexer :=
  if l.keyAllowed then do
    let required := l.inBlock && l.indent = l.cursor.column
    let l ← l.dropKey
    let k : KeyStart := ⟨l.tokens.length, required, l.cursor.index, l.cursor.line, l.cursor.column⟩
    .ok { l with keys := (l.flow, k) :: l.keys }
  else .ok l

/-- The number of collections that end left of a column, and what is left open. -/
def closing (column : Int) : Int → List Int → Nat × Int × List Int
  | indent, [] => (0, indent, [])
  | indent, outer :: outers =>
    if column < indent then
      let (n, left) := closing column outer outers
      (n + 1, left)
    else (0, indent, outer :: outers)

/-- Ends the block collections that are indented deeper than a column. -/
def unwind (l : Lexer) (column : Int) : Lexer :=
  if l.inBlock then
    let (n, indent, indents) := closing column l.indent l.indents
    { l with tokens := l.tokens ++ List.replicate n .blockEnd, indent, indents }
  else l

/-- Opens a block collection at a column right of the innermost one, with a token after the first
`n`. -/
def openAt (l : Lexer) (column : Int) (n : Nat) (t : Token) : Lexer :=
  if l.indent < column then
    { l.insert n t with indent := column, indents := l.indent :: l.indents }
  else l

/-- Skips spaces, comments and breaks; `true` after a break. -/
def skipGaps : (fuel : Nat) → Cursor → Cursor × Bool
  | 0, c => (c, false)
  | fuel + 1, c =>
    let c := c.skip isSpace
    let c := if atComment c.rest then c.skip (!isBreak ·) else c
    match c.takeBreak? with
    | none => (c, false)
    | some (_, c) => ((skipGaps fuel c).1, true)

/-- Goes to the next token.  In block context, a key may start on a new line. -/
def toNext (l : Lexer) : Lexer :=
  let c := l.cursor
  let c := if c.index = 0 && c.rest.head? = some byteOrderMark then c.next else c
  let (c, crossed) := skipGaps (c.rest.length + 1) c
  { l with cursor := c, keyAllowed := l.keyAllowed || (crossed && l.inBlock) }

/-! ### Single tokens -/

/-- The end of the stream. -/
def fetchEnd (l : Lexer) : Except Fault Lexer := do
  let l ← (l.unwind (-1)).dropKey
  .ok (l.push .streamEnd)

def fetchDirective (l : Lexer) : Except Fault Lexer := do
  let l ← (l.unwind (-1)).dropKey
  let (token, c) ← takeDirective l.cursor
  .ok { l.push token with cursor := c, keyAllowed := false }

/-- The marker of a document. -/
def fetchMarker (t : Token) (l : Lexer) : Except Fault Lexer := do
  let l ← (l.unwind (-1)).dropKey
  .ok { l.push t with cursor := l.cursor.advance 3, keyAllowed := false }

def fetchFlowStart (t : Token) (l : Lexer) : Except Fault Lexer := do
  let l ← l.saveKey
  .ok { l.push t with cursor := l.cursor.next, flow := l.flow + 1, keyAllowed := true }

def fetchFlowEnd (t : Token) (l : Lexer) : Except Fault Lexer := do
  let l ← l.dropKey
  if l.inBlock then .error .malformed
  .ok { l.push t with cursor := l.cursor.next, flow := l.flow - 1, keyAllowed := false }

def fetchFlowEntry (l : Lexer) : Except Fault Lexer := do
  let l ← l.dropKey
  .ok { l.push .flowEntry with cursor := l.cursor.next, keyAllowed := true }

/-- Opens a block collection at the cursor, where one may start. -/
def openHere (t : Token) (l : Lexer) : Except Fault Lexer :=
  if l.inBlock then
    if l.keyAllowed then .ok (l.openAt l.cursor.column l.tokens.length t) else .error .malformed
  else .ok l

def fetchBlockEntry (l : Lexer) : Except Fault Lexer := do
  let l ← l.openHere .blockSequenceStart
  let l ← l.dropKey
  .ok { l.push .blockEntry with cursor := l.cursor.next, keyAllowed := true }

def fetchKey (l : Lexer) : Except Fault Lexer := do
  let l ← l.openHere .blockMappingStart
  let l ← l.dropKey
  .ok { l.push .key with cursor := l.cursor.next, keyAllowed := l.inBlock }

/-- A colon.  It makes a key of the node before it, if that may be one. -/
def fetchValue (l : Lexer) : Except Fault Lexer :=
  match l.keys.lookup l.flow with
  | some k =>
    let l := { l with keys := l.keys.filter fun k => k.1 ≠ l.flow }
    let l := l.insert k.number .key
    let l := if l.inBlock then l.openAt k.column k.number .blockMappingStart else l
    .ok { l.push .value with cursor := l.cursor.next, keyAllowed := false }
  | none => do
    let l ← l.openHere .blockMappingStart
    let l ← { l with keyAllowed := l.inBlock }.dropKey
    .ok { l.push .value with cursor := l.cursor.next }

def fetchAnchor (token : Text → Token) (l : Lexer) : Except Fault Lexer := do
  let l ← l.saveKey
  let (name, c) ← takeAnchor l.cursor
  .ok { l.push (token name) with cursor := c, keyAllowed := false }

def fetchTag (l : Lexer) : Except Fault Lexer := do
  let l ← l.saveKey
  let (token, c) ← takeTag l.cursor
  .ok { l.push token with cursor := c, keyAllowed := false }

def fetchBlockScalar (folds : Bool) (l : Lexer) : Except Fault Lexer := do
  let l ← { l with keyAllowed := true }.dropKey
  let (text, c) ← blockScalar folds l.indent l.cursor
  .ok { l.push (.scalar text false) with cursor := c }

def fetchQuoted (read : Nat → Cursor → Except Fault (Text × Cursor)) (l : Lexer) :
    Except Fault Lexer := do
  let l ← l.saveKey
  let (text, c) ← read (l.cursor.rest.length + 1) l.cursor.next
  .ok { l.push (.scalar text false) with cursor := c, keyAllowed := false }

def fetchPlain (l : Lexer) : Except Fault Lexer := do
  let l ← l.saveKey
  let (text, c, newLine) := plainScalar (!l.inBlock) (l.indent + 1) l.cursor
  .ok { l.push (.scalar text true) with cursor := c, keyAllowed := newLine }

/-- Code points that no plain scalar starts with, whatever follows. -/
def isIndicator (c : CodePoint) : Bool :=
  isBracket c || c = ',' || c = '#' || c = '&' || c = '*' || c = '!' || c = '|' || c = '>'
    || c = '\'' || c = '"' || c = '%' || c = '@' || c = '\x60'

/-- Whether a plain scalar starts at the front of the text. -/
def startsPlain (l : Lexer) (c : CodePoint) (rest : Text) : Bool :=
  if isIndicator c || isBreak c || isBlank c then false
  else if c = '-' then !atGap rest
  else if c = '?' || c = ':' then l.inBlock && !atGap rest
  else true

/-- The next token. -/
def fetch (l : Lexer) : Except Fault Lexer := do
  let l ← l.toNext.dropStale
  let l := l.unwind l.cursor.column
  match l.cursor.rest with
  | [] => l.fetchEnd
  | c :: rest =>
    let first := l.cursor.column = 0
    if c = '%' && first then l.fetchDirective
    else if first && Cursor.atMarker '-' (c :: rest) then l.fetchMarker .documentStart
    else if first && Cursor.atMarker '.' (c :: rest) then l.fetchMarker .documentEnd
    else if c = '[' then l.fetchFlowStart .flowSequenceStart
    else if c = '\x7b' then l.fetchFlowStart .flowMappingStart
    else if c = ']' then l.fetchFlowEnd .flowSequenceEnd
    else if c = '\x7d' then l.fetchFlowEnd .flowMappingEnd
    else if c = ',' then l.fetchFlowEntry
    else if c = '-' && atGap rest then l.fetchBlockEntry
    else if c = '?' && (!l.inBlock || atGap rest) then l.fetchKey
    else if c = ':' && (!l.inBlock || atGap rest) then l.fetchValue
    else if c = '*' then l.fetchAnchor .alias
    else if c = '&' then l.fetchAnchor .anchor
    else if c = '!' then l.fetchTag
    else if c = '|' && l.inBlock then l.fetchBlockScalar false
    else if c = '>' && l.inBlock then l.fetchBlockScalar true
    else if c = '\'' then l.fetchQuoted singleQuoted
    else if c = '"' then l.fetchQuoted doubleQuoted
    else if l.startsPlain c rest then l.fetchPlain
    else .error .malformed

/-- The tokens before the first place where a key may still have started.  A token there is not
handed out before the next ones are known, for others may come before it. -/
def settled (l : Lexer) : List Token :=
  (l.keys.filter fun k => !isStale l.cursor k.2).foldl (fun ts k => ts.take k.2.number) l.tokens

/-- All tokens from a state on; each takes a code point at least.  A fault is met as soon as a token
is asked for that is not settled. -/
def run : (fuel : Nat) → Lexer → List Token
  | 0, l => l.tokens ++ [.fault .malformed]
  | fuel + 1, l =>
    match l.fetch with
    | .error f => l.settled ++ [.fault f]
    | .ok l =>
      match l.tokens.getLast? with
      | some .streamEnd => l.tokens
      | _ => run fuel l

end Lexer

/-- The tokens of a text. -/
def Token.scan (t : Text) : List Token :=
  if t.all isAllowed then (Lexer.start t).run (t.length + 2) else [.fault .malformed]

end JsonShape.Yaml
