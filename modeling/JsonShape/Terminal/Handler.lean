import JsonShape.Number.Numeral
import JsonShape.Text.Blank
import JsonShape.Text.Utf8
import JsonShape.Text.Word

/-!
# Handlers of tags

A tag may name a handler with its arguments: a name, arguments in brackets, or both.  The arguments
are written as literals: numbers, strings, the words for truth, falsehood and nothing, tuples, sets
and dictionaries of such, and sums of a real and an imaginary number.  Here it is only told whether
they can be read.  Which characters can be named in the escapes of a string is an argument
(`isName`).
-/

namespace JsonShape.Handler

/-- What a literal is, as far as it matters for what may stand around it. -/
inductive Value
  | number (imaginary : Bool)
  | signed (imaginary : Bool)
  /-- Any other value that never changes. -/
  | fixed
  /-- A value that may change, or that holds one; no set has it as a member. -/
  | changing

def Value.isReal : Value → Bool
  | .number imaginary | .signed imaginary => !imaginary
  | _ => false

def Value.isFixed : Value → Bool
  | .changing => false
  | _ => true

/-! ### Gaps -/

/-- Leaves out spaces, tabs, form feeds and broken lines; inside brackets also line ends and
comments. -/
def skip (inBrackets comment : Bool) : Text → Text
  | [] => []
  | c :: t =>
    if comment then skip inBrackets (c ≠ '\n') t
    else if c = ' ' || c = '\t' || c = '\x0c' then skip inBrackets false t
    else if inBrackets && c = '\n' then skip inBrackets false t
    else if inBrackets && c = '#' then skip inBrackets true t
    else if c = '\\' && t.head? = some '\n' then skip inBrackets false t.tail
    else c :: t
termination_by t => t.length

/-- Leaves out what may stand between the parts of a literal, `depth` brackets deep.  Outside of
brackets comments and line ends may only stand at the end. -/
def gap (depth : Nat) (t : Text) : Text :=
  if 0 < depth || skip true false t = [] then skip true false t else skip false false t

/-! ### Numbers -/

/-- Digits, with single underscores between them. -/
def digits (isDigit : CodePoint → Bool) : Text → Text × Text
  | [] => ([], [])
  | c :: t =>
    if isDigit c then
      match t with
      | u :: d :: rest =>
        let r := digits isDigit (if u = '_' && isDigit d then d :: rest else u :: d :: rest)
        (c :: r.1, r.2)
      | rest =>
        let r := digits isDigit rest
        (c :: r.1, r.2)
    else ([], c :: t)
termination_by t => t.length
decreasing_by
  · split <;> simp
  · simp

/-- What follows a whole number in one of the bases two, eight and sixteen. -/
def based? (t : Text) : Option Text :=
  match t with
  | z :: m :: rest =>
    let isDigit? : Option (CodePoint → Bool) :=
      match (m.lowerAscii).val with
      | 0x78 => some fun c => c.hexValue?.isSome
      | 0x6F => some fun c => c.isDigit && c.digitValue < 8
      | 0x62 => some fun c => c.isDigit && c.digitValue < 2
      | _ => none
    match isDigit? with
    | some isDigit =>
      let r := digits isDigit (if rest.head? = some '_' then rest.tail else rest)
      if z = '0' && r.1 ≠ [] then some r.2 else none
    | none => none
  | _ => none

/-- What follows a fraction. -/
def fraction? (t : Text) : Option Text :=
  match t with
  | p :: rest => if p = '.' then some (digits CodePoint.isDigit rest).2 else none
  | [] => none

/-- What follows an exponent. -/
def exponent? (t : Text) : Option Text :=
  match t with
  | e :: rest =>
    let unsigned := match rest with
      | s :: rest' => if s = '+' || s = '-' then rest' else rest
      | [] => rest
    let r := digits CodePoint.isDigit unsigned
    if (e = 'e' || e = 'E') && r.1 ≠ [] then some r.2 else none
  | [] => none

/-- A number in base ten.  A whole number has no zeros in front, and not too many digits. -/
def decimal? (t : Text) : Option (Value × Text) :=
  let (whole, rest) := digits CodePoint.isDigit t
  let pointed := fraction? rest
  let powered := exponent? (pointed.getD rest)
  let rest := powered.getD (pointed.getD rest)
  let isWhole := pointed.isNone && powered.isNone
  let isPlain := (whole.head? ≠ some '0' || whole.all (· = '0')) && whole.length ≤ Numeral.maxDigits
  match rest with
  | j :: rest' =>
    if j = 'j' || j = 'J' then some (.number true, rest')
    else if isWhole && !isPlain then none
    else some (.number false, rest)
  | [] => if isWhole && !isPlain then none else some (.number false, rest)

/-- Whether a number is at the front of a text. -/
def startsNumber (t : Text) : Bool :=
  match t with
  | [] => false
  | [c] => c.isDigit
  | c :: d :: _ => c.isDigit || (c = '.' && d.isDigit)

/-! ### Strings -/

variable (isName : Text → Bool)

/-- Whether `n` hexadecimal digits are at the front of a text. -/
def startsHex (n : Nat) (t : Text) : Bool :=
  (t.take n).length = n && (t.take n).all fun c => c.hexValue?.isSome

/-- Whether the name of a character is at the front of a text, in braces.  Names are written in
letters, digits, spaces and hyphens. -/
def startsNamed (t : Text) : Bool :=
  let isPart (c : CodePoint) : Bool := c.isLetter || c.isDigit || c = ' ' || c = '-'
  match t with
  | [] => false
  | b :: t => b = '\x7b' && (Text.upTo '\x7d' (!isPart ·) t).any fun r => r.1 ≠ [] && isName r.1

/-- Whether what follows a backslash is an escape. -/
def isEscape (bytes : Bool) (e : CodePoint) (t : Text) : Bool :=
  if e = 'x' then startsHex 2 t
  else if bytes then e.val < 0x80
  else if e = 'u' then startsHex 4 t
  else if e = 'U' then
    startsHex 8 t
      && (t.take 8).foldl (fun n d => 16 * n + d.hexValue?.getD 0) 0 < 0x110000
  else if e = 'N' then startsNamed isName t
  else true

/-- What follows the end of a string, inside of which the text begins. -/
def closed? (raw bytes triple : Bool) (quote : CodePoint) : Text → Option Text
  | [] => none
  | c :: t =>
    if c = '\\' then
      match t with
      | [] => none
      | e :: t =>
        if isEscape isName bytes e t || (raw && (!bytes || e.val < 0x80)) then
          closed? raw bytes triple quote t
        else none
    else if c = quote then
      if triple then
        match t with
        | a :: b :: rest =>
          if a = quote && b = quote then some rest
          else closed? raw bytes triple quote (a :: b :: rest)
        | _ => none
      else some t
    else if (c = '\n' && !triple) || (bytes && 0x80 ≤ c.val) then none
    else closed? raw bytes triple quote t
termination_by t => t.length

/-- The string that is opened by a quote, after its mark. -/
def quoted? (raw bytes : Bool) (t : Text) : Option Text :=
  match t with
  | [] => none
  | q :: rest =>
    if q = '\'' || q = '"' then
      match rest with
      | a :: b :: rest' =>
        if a = q && b = q then closed? isName raw bytes true q rest'
        else closed? isName raw bytes false q rest
      | _ => closed? isName raw bytes false q rest
    else none

/-- The marks of strings, and whether a string is raw and made of bytes. -/
def marks : List (Text × Bool × Bool) :=
  [("", false, false), ("u", false, false), ("r", true, false), ("b", false, true),
    ("br", true, true), ("rb", true, true)]

/-- Whether a string at the front of a text is made of bytes, and what follows it. -/
def string? (t : Text) : Option (Bool × Text) :=
  let mark := t.takeWhile CodePoint.isLetter
  match marks.lookup (mark.map CodePoint.lowerAscii) with
  | some (raw, bytes) => (quoted? isName raw bytes (t.drop mark.length)).map (bytes, ·)
  | none => none

/-- What follows strings that stand side by side; all of them are made of bytes, or none. -/
def strings? (depth : Nat) (bytes : Bool) : (fuel : Nat) → Text → Option Text
  | 0, _ => none
  | fuel + 1, t =>
    match string? isName (gap depth t) with
    | some (b, rest) => if b = bytes then strings? depth bytes fuel rest else none
    | none => some t

/-! ### Literals -/

/-- How deep brackets may stand. -/
def maxDepth : Nat := 200

/-- What follows a character at the front of a text. -/
def after? (c : CodePoint) (t : Text) : Option Text :=
  if t.head? = some c then some t.tail else none

/-- A string, a number, or a word. -/
def atom? (depth : Nat) (t : Text) : Option (Value × Text) :=
  match string? isName t with
  | some (bytes, rest) => (strings? isName depth bytes (rest.length + 1) rest).map (.fixed, ·)
  | none =>
    if startsNumber t then ((based? t).map (.number false, ·)).or (decimal? t)
    else
      match t.after? "..." with
      | some rest => some (.fixed, rest)
      | none =>
        let word := t.takeWhile CodePoint.isWord
        let rest := t.drop word.length
        if [Text.ofString "True", "False", "None"].contains word then some (.fixed, rest)
        else if word = Text.ofString "set" then do
          let opened ← after? '(' (gap depth rest)
          let rest ← after? ')' (gap (depth + 1) opened)
          some (.changing, rest)
        else none

mutual

/-- A literal that is no sum, with its sign; `depth` brackets are open. -/
def operand? (depth : Nat) : (fuel : Nat) → Text → Option (Value × Text)
  | 0, _ => none
  | fuel + 1, t =>
    match (after? '+' t).or (after? '-' t) with
    | some rest =>
      match operand? depth fuel (gap depth rest) with
      | some (.number imaginary, rest) => some (.signed imaginary, rest)
      | _ => none
    | none =>
      let inner := depth + 1
      match after? '(' t, after? '\x7b' t with
      | none, none => atom? isName depth t
      | some rest, _ =>
        if depth = maxDepth then none else bracketed? inner fuel (gap inner rest)
      | none, some rest =>
        if depth = maxDepth then none else braced? inner fuel (gap inner rest)
termination_by structural fuel => fuel

/-- A literal in round brackets, after the first one: a tuple if it is empty or has a comma. -/
def bracketed? (depth : Nat) : (fuel : Nat) → Text → Option (Value × Text)
  | 0, _ => none
  | fuel + 1, t =>
    match after? ')' t with
    | some rest => some (.fixed, rest)
    | none => do
      let (v, rest) ← expression? depth fuel t
      match after? ')' rest with
      | some rest => some (v, rest)
      | none =>
        let rest ← after? ',' rest
        let (fixed, rest) ← items? depth (some ')') v.isFixed fuel (gap depth rest)
        some (if fixed then .fixed else .changing, rest)
termination_by structural fuel => fuel

/-- A set or a dictionary, after the first bracket; its members or keys are fixed. -/
def braced? (depth : Nat) : (fuel : Nat) → Text → Option (Value × Text)
  | 0, _ => none
  | fuel + 1, t =>
    match after? '\x7d' t with
    | some rest => some (.changing, rest)
    | none => do
      let (v, rest) ← expression? depth fuel t
      if !v.isFixed then none
      else
        match after? '\x7d' rest, after? ':' rest with
        | some rest, _ => some (.changing, rest)
        | none, some rest =>
          let (_, rest) ← expression? depth fuel (gap depth rest)
          let rest ← entries? depth fuel rest
          some (.changing, rest)
        | none, none =>
          let rest ← after? ',' rest
          let (fixed, rest) ← items? depth (some '\x7d') true fuel (gap depth rest)
          if fixed then some (.changing, rest) else none
termination_by structural fuel => fuel

/-- A literal, and what follows it after a gap. -/
def expression? (depth : Nat) : (fuel : Nat) → Text → Option (Value × Text)
  | 0, _ => none
  | fuel + 1, t =>
    match operand? depth fuel t with
    | none => none
    | some (v, rest) =>
      let rest := gap depth rest
      match (after? '+' rest).or (after? '-' rest) with
      | none => some (v, rest)
      | some rest =>
        match operand? depth fuel (gap depth rest) with
        | some (.number true, rest) => if v.isReal then some (.fixed, gap depth rest) else none
        | _ => none
termination_by structural fuel => fuel

/-- Literals with commas between them up to a bracket, or to the end of the text; whether all of
them are fixed, and what follows. -/
def items? (depth : Nat) (close : Option CodePoint) (fixed : Bool) :
    (fuel : Nat) → Text → Option (Bool × Text)
  | 0, _ => none
  | fuel + 1, t =>
    if t.head? = close then some (fixed, t.tail)
    else
      match expression? depth fuel t with
      | none => none
      | some (v, rest) =>
        if rest.head? = close then some (fixed && v.isFixed, rest.tail)
        else
          match after? ',' rest with
          | some rest => items? depth close (fixed && v.isFixed) fuel (gap depth rest)
          | none => none
termination_by structural fuel => fuel

/-- What follows the entries of a dictionary after the first one. -/
def entries? (depth : Nat) : (fuel : Nat) → Text → Option Text
  | 0, _ => none
  | fuel + 1, t =>
    match after? '\x7d' t with
    | some rest => some rest
    | none =>
      match after? ',' t with
      | none => none
      | some rest =>
        match after? '\x7d' (gap depth rest) with
        | some rest => some rest
        | none => do
          let (key, rest) ← expression? depth fuel (gap depth rest)
          let rest ← after? ':' rest
          let (_, rest) ← expression? depth fuel (gap depth rest)
          if key.isFixed then entries? depth fuel rest else none
termination_by structural fuel => fuel

end

/-- A text without the comments in lines before it; it may not be indented then. -/
def afterComments (t : Text) : Text :=
  let rest := skip true false t
  if t.head? = some '#' && (t.take (t.length - rest.length)).getLast? = some '\n' then rest else t

/-- Whether a text is a literal, or literals with commas between them. -/
def isLiteral (t : Text) : Bool :=
  let whole := t.unifyNewlines
  let literal := gap 0 (afterComments whole)
  !whole.any (fun c => c.val = 0 || c.isSurrogate) && literal ≠ []
    && (items? isName 0 none true (4 * literal.length + 4) literal).isSome

/-- The arguments of a handler: what stands in brackets after its name, or none after a name
alone. -/
def arguments (parameters : Text) : Text :=
  let t := parameters.trim
  let rest : Text := t.dropWhile fun c => c.isWord || c = '.'
  if rest = [] then "()"
  else if rest.head? = some '(' && rest.getLast? = some ')' && !rest.contains '\n' then rest
  else t

/-- **Whether the parameters of a handler can be read.** -/
def isReadable (parameters : Text) : Bool := isLiteral isName (arguments parameters)

end JsonShape.Handler
