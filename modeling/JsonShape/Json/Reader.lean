import JsonShape.Json
import JsonShape.Number.Numeral
import JsonShape.OrderedMap

/-!
# Reading JSON text

`Json.read` accepts the JSON grammar and nothing else: no byte order mark, no non-finite numbers, no
control character inside a string.  Each production is a function from the text still to be read to
what it read and what follows it.  An error says what was wrong and how many code points were left
there; `ReadError.message` turns that into a line, a column and an index.

Containers nest at most `maxDepth` deep, and integers have at most `Numeral.maxDigits` digits.
-/

namespace JsonShape.Json

/-! ### Errors -/

/-- Something that was due and not found. -/
inductive Due
  | value
  | propertyName
  | colon
  | comma
deriving DecidableEq

/-- Why a text is no JSON document.  `left` counts the code points from the place of the error to
the end of the text. -/
inductive ReadError
  | byteOrderMark
  | missing (what : Due) (left : Nat)
  | extraData (left : Nat)
  | controlCharacter (left : Nat)
  | unterminatedString (left : Nat)
  | badEscape (left : Nat)
  | badUnicodeEscape (left : Nat)
  | nonFinite (token : Text)
  | tooManyDigits (count : Nat)
  | tooDeep
deriving DecidableEq

/-- The deepest nesting of arrays and objects that is read. -/
def maxDepth : Nat := 1000

/-! ### Blanks and strings -/

/-- Space, tab, line feed and carriage return. -/
def isBlank (c : CodePoint) : Bool := c = ' ' || c = '\t' || c = '\n' || c = '\r'

def skipBlank (t : Text) : Text := t.dropWhile isBlank

/-- A piece of a string: a code point, or a unit spelt as four hexadecimal digits. -/
inductive Piece
  | plain (c : CodePoint)
  | unit (c : CodePoint)

/-- The text of pieces: a high surrogate unit and a low one right after it stand for one code
point. -/
def joinPieces : List Piece → Text
  | [] => []
  | .unit h :: .unit l :: rest =>
    if h.isHighSurrogate && l.isLowSurrogate then .ofSurrogates h l :: joinPieces rest
    else h :: joinPieces (.unit l :: rest)
  | .unit c :: rest => c :: joinPieces rest
  | .plain c :: rest => c :: joinPieces rest

/-- What the letter after a backslash stands for. -/
def escape? (e : CodePoint) : Option CodePoint :=
  if e = '"' then some '"'
  else if e = '\\' then some '\\'
  else if e = '/' then some '/'
  else if e = 'b' then some '\x08'
  else if e = 'f' then some '\x0C'
  else if e = 'n' then some '\n'
  else if e = 'r' then some '\r'
  else if e = 't' then some '\t'
  else none

/-- The unit that four hexadecimal digits spell. -/
def unit? (a b c d : CodePoint) : Option CodePoint :=
  match a.hexValue?, b.hexValue?, c.hexValue?, d.hexValue? with
  | some a, some b, some c, some d => some (.ofNat (((a * 16 + b) * 16 + c) * 16 + d))
  | _, _, _, _ => none

/-- Puts a piece in front of those read after it. -/
def Piece.before (p : Piece) :
    Except ReadError (List Piece × Text) → Except ReadError (List Piece × Text)
  | .ok (ps, rest) => .ok (p :: ps, rest)
  | .error e => .error e

/-- The pieces up to the closing quote.  `opening` is the text from the opening quote on, `allowed`
holds of the code points that may stand for themselves. -/
def readPieces (allowed : CodePoint → Bool) (opening : Text) :
    Text → Except ReadError (List Piece × Text)
  | [] => .error (.unterminatedString opening.length)
  | c :: rest =>
    if c = '"' then .ok ([], rest)
    else if c = '\\' then
      match rest with
      | [] => .error (.unterminatedString opening.length)
      | e :: rest =>
        if e = 'u' then
          match rest with
          | x₁ :: x₂ :: x₃ :: x₄ :: next :: rest =>
            match unit? x₁ x₂ x₃ x₄ with
            | some u => (Piece.unit u).before (readPieces allowed opening (next :: rest))
            | none => .error (.badUnicodeEscape (rest.length + 6))
          | short => .error (.badUnicodeEscape (short.length + 1))
        else
          match escape? e with
          | some x => (Piece.plain x).before (readPieces allowed opening rest)
          | none => .error (.badEscape (rest.length + 2))
    else if allowed c then (Piece.plain c).before (readPieces allowed opening rest)
    else .error (.controlCharacter (rest.length + 1))

/-- The string whose opening quote stands before `rest`. -/
def readString (allowed : CodePoint → Bool) (rest : Text) : Except ReadError (Text × Text) := do
  let (pieces, rest) ← readPieces allowed ('"' :: rest) rest
  .ok (joinPieces pieces, rest)

/-! ### Numbers -/

/-- The parts of a number's text. -/
structure NumberToken where
  negative : Bool
  whole : Text
  /-- Digits after the point; none when there is no point. -/
  fraction : Text
  exponent : Option Int

/-- A single zero, or digits that start with another one. -/
def takeWhole : Text → Option (Text × Text)
  | [] => none
  | c :: rest =>
    if c = '0' then some (['0'], rest)
    else if c.isDigit then some (Numeral.span (c :: rest))
    else none

/-- The digits after a point; a point without digits is not taken. -/
def takeFraction : Text → Text × Text
  | [] => ([], [])
  | c :: rest =>
    if c = '.' then
      match Numeral.span rest with
      | ([], _) => ([], c :: rest)
      | taken => taken
    else ([], c :: rest)

/-- The exponent after its mark; a mark without digits is not taken. -/
def takeExponent : Text → Option Int × Text
  | [] => (none, [])
  | c :: rest =>
    if c = 'e' ∨ c = 'E' then
      let (negative, digits) := Numeral.takeSign rest
      match Numeral.span digits with
      | ([], _) => (none, c :: rest)
      | (ds, rest) =>
        let e : Int := Numeral.value ds
        (some (if negative then -e else e), rest)
    else (none, c :: rest)

/-- The longest number at the front of a text. -/
def takeNumber? (t : Text) : Option (NumberToken × Text) :=
  let (negative, t) := match t with
    | [] => (false, [])
    | c :: rest => if c = '-' then (true, rest) else (false, c :: rest)
  match takeWhole t with
  | none => none
  | some (whole, t) =>
    let (fraction, t) := takeFraction t
    let (exponent, t) := takeExponent t
    some (⟨negative, whole, fraction, exponent⟩, t)

/-- The double nearest to the token. -/
def NumberToken.toDouble (n : NumberToken) : Double :=
  .ofDecimal n.negative (Numeral.value (n.whole ++ n.fraction))
    (n.exponent.getD 0 - n.fraction.length)

/-- The token's number: an integer if it has neither fraction nor exponent. -/
def NumberToken.number (n : NumberToken) : Except ReadError Number :=
  match n.fraction, n.exponent with
  | [], none =>
    if Numeral.maxDigits < n.whole.length then .error (.tooManyDigits n.whole.length)
    else
      let v : Int := Numeral.value n.whole
      .ok (.int (if n.negative then -v else v))
  | _, _ => .ok (.double n.toDouble)

/-- A scalar that is not a string. -/
def readBare (t : Text) : Except ReadError (Json × Text) :=
  if let some rest := t.after? "null" then .ok (.null, rest)
  else if let some rest := t.after? "true" then .ok (.bool true, rest)
  else if let some rest := t.after? "false" then .ok (.bool false, rest)
  else if (t.after? "NaN").isSome then .error (.nonFinite "NaN")
  else if (t.after? "Infinity").isSome then .error (.nonFinite "Infinity")
  else if (t.after? "-Infinity").isSome then .error (.nonFinite "-Infinity")
  else match takeNumber? t with
    | none => .error (.missing .value t.length)
    | some (token, rest) => do
      let n ← token.number
      .ok (.number n, rest)

/-! ### Dialects -/

/-- A reader of one value at the front of a text. -/
abbrev ValueReader := Text → Except ReadError (Json × Text)

/-- What JSON readers differ in. -/
structure Dialect where
  /-- The code points that may stand for themselves between quotes. -/
  allowed : CodePoint → Bool
  /-- Reads a scalar that is not a string. -/
  bare : ValueReader

/-- The JSON grammar: control characters are escaped. -/
def strict : Dialect := ⟨fun c => 0x20 ≤ c.val, readBare⟩

/-! ### Arrays and objects

`item` reads a value; `fuel` bounds the number of items, and the length of the text is enough of it.
-/

/-- The items from the first one to the closing bracket. -/
def readItems (item : ValueReader) : (fuel : Nat) → Text → Except ReadError (List Json × Text)
  | 0, t => .error (.missing .value t.length)
  | fuel + 1, t => do
    let (v, t) ← item t
    match skipBlank t with
    | [] => .error (.missing .comma 0)
    | c :: rest =>
      if c = ']' then .ok ([v], rest)
      else if c = ',' then do
        let (vs, rest) ← readItems item fuel (skipBlank rest)
        .ok (v :: vs, rest)
      else .error (.missing .comma (rest.length + 1))

/-- One field: a name, a colon and a value. -/
def readField (d : Dialect) (item : ValueReader) : Text → Except ReadError ((Text × Json) × Text)
  | [] => .error (.missing .propertyName 0)
  | c :: rest =>
    if c = '"' then do
      let (key, t) ← readString d.allowed rest
      match skipBlank t with
      | [] => .error (.missing .colon 0)
      | c :: rest =>
        if c = ':' then do
          let (v, rest) ← item (skipBlank rest)
          .ok ((key, v), rest)
        else .error (.missing .colon (rest.length + 1))
    else .error (.missing .propertyName (rest.length + 1))

/-- The fields from the first one to the closing brace. -/
def readFields (d : Dialect) (item : ValueReader) :
    (fuel : Nat) → Text → Except ReadError (List (Text × Json) × Text)
  | 0, t => .error (.missing .propertyName t.length)
  | fuel + 1, t => do
    let (f, t) ← readField d item t
    match skipBlank t with
    | [] => .error (.missing .comma 0)
    | c :: rest =>
      if c = '\x7d' then .ok ([f], rest)
      else if c = ',' then do
        let (fs, rest) ← readFields d item fuel (skipBlank rest)
        .ok (f :: fs, rest)
      else .error (.missing .comma (rest.length + 1))

/-- The array whose opening bracket stands before `t`. -/
def readArray (item : ValueReader) (fuel : Nat) (t : Text) : Except ReadError (Json × Text) :=
  match skipBlank t with
  | [] => .error (.missing .value 0)
  | c :: rest =>
    if c = ']' then .ok (.array [], rest)
    else do
      let (vs, rest) ← readItems item fuel (c :: rest)
      .ok (.array vs, rest)

/-- The object whose opening brace stands before `t`.  A key that comes again keeps its first place
and takes its last value. -/
def readObject (d : Dialect) (item : ValueReader) (fuel : Nat) (t : Text) :
    Except ReadError (Json × Text) :=
  match skipBlank t with
  | [] => .error (.missing .propertyName 0)
  | c :: rest =>
    if c = '\x7d' then .ok (.object [], rest)
    else do
      let (fs, rest) ← readFields d item fuel (c :: rest)
      .ok (.object (upsertAll fs), rest)

/-! ### Values -/

/-- A value whose containers hold what `item` reads; without `item` no container may start. -/
def readWith (d : Dialect) (item : Option ValueReader) (fuel : Nat) :
    Text → Except ReadError (Json × Text)
  | [] => .error (.missing .value 0)
  | c :: rest =>
    if c = '"' then do
      let (s, rest) ← readString d.allowed rest
      .ok (.string s, rest)
    else if c = '[' then
      match item with
      | some item => readArray item fuel rest
      | none => .error .tooDeep
    else if c = '\x7b' then
      match item with
      | some item => readObject d item fuel rest
      | none => .error .tooDeep
    else d.bare (c :: rest)

/-- A value that nests at most `depth` containers. -/
def readValue (d : Dialect) (fuel : Nat) : (depth : Nat) → ValueReader
  | 0 => readWith d none fuel
  | depth + 1 => readWith d (some (readValue d fuel depth)) fuel

/-- The one value of a text, with blanks around it, nested at most `depth` deep. -/
def readWithin (d : Dialect) (depth : Nat) (t : Text) : Except ReadError Json := do
  if t.head? = some '\uFEFF' then .error .byteOrderMark
  let (v, rest) ← readValue d (t.length + 1) depth (skipBlank t)
  match skipBlank rest with
  | [] => .ok v
  | extra => .error (.extraData extra.length)

/-- **The value that a JSON text stands for.** -/
def read (t : Text) (depth : Nat := maxDepth) : Except ReadError Json := readWithin strict depth t

/-! ### Messages -/

/-- `line L column C (char P)` for the place with `left` code points to the end of the text. -/
def placeText (t : Text) (left : Nat) : Text :=
  let index := t.length - left
  let before := t.take index
  let column := (before.reverse.takeWhile (· ≠ ('\n' : CodePoint))).length + 1
  "line " ++ Numeral.ofNat (before.count ('\n' : CodePoint) + 1)
    ++ " column " ++ Numeral.ofNat column ++ " (char " ++ Numeral.ofNat index ++ ")"

def Due.text : Due → Text
  | .value => "Expecting value"
  | .propertyName => "Expecting property name enclosed in double quotes"
  | .colon => "Expecting ':' delimiter"
  | .comma => "Expecting ',' delimiter"

/-- The words of an error that was met in the text `t`. -/
def ReadError.message (t : Text) : ReadError → Text
  | .byteOrderMark => at' "Unexpected UTF-8 BOM (decode using utf-8-sig)" t.length
  | .missing what left => at' what.text left
  | .extraData left => at' "Extra data" left
  | .controlCharacter left => at' "Invalid control character at" left
  | .unterminatedString left => at' "Unterminated string starting at" left
  | .badEscape left => at' "Invalid \\escape" left
  | .badUnicodeEscape left => at' "Invalid \\uXXXX escape" left
  | .nonFinite token => "Unexpected token " ++ token ++ " in JSON"
  | .tooManyDigits count => Numeral.limitText count
  | .tooDeep => "Input is nested too deeply"
where
  at' (what : Text) (left : Nat) : Text := what ++ ": " ++ placeText t left

theorem ReadError.message_ne_nil (t : Text) (e : ReadError) : e.message t ≠ [] := by
  cases e <;> simp [ReadError.message, ReadError.message.at', Numeral.limitText, Text.ofString]

end JsonShape.Json
