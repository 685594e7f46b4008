import JsonShape.Yaml.Stamp

/-!
# The tags of YAML nodes

The type of a node: named by a tag in the text, or taken from the look of a plain scalar.
-/

namespace JsonShape.Yaml

/-- The type of a node. -/
inductive Tag
  | null
  | bool
  | int
  | float
  | binary
  | timestamp
  | omap
  | pairs
  | set
  | str
  | seq
  | map
  | merge
  | value
  | other
deriving DecidableEq

namespace Tag

/-- What the names of the tags that have a meaning start with. -/
def coreUri : Text := "tag:yaml.org,2002:"

/-- The tags by the ends of their names. -/
def names : List (Text × Tag) :=
  [("null", .null), ("bool", .bool), ("int", .int), ("float", .float), ("binary", .binary),
    ("timestamp", .timestamp), ("omap", .omap), ("pairs", .pairs), ("set", .set), ("str", .str),
    ("seq", .seq), ("map", .map), ("merge", .merge), ("value", .value)]

/-- The tag of a full name. -/
def ofUri (uri : Text) : Tag :=
  match uri.after? coreUri with
  | some name => (names.lookup name).getD .other
  | none => .other

/-! ### Plain scalars -/

def boolWords : List (Text × Bool) :=
  [("yes", true), ("Yes", true), ("YES", true), ("no", false), ("No", false), ("NO", false),
    ("true", true), ("True", true), ("TRUE", true), ("false", false), ("False", false),
    ("FALSE", false), ("on", true), ("On", true), ("ON", true), ("off", false), ("Off", false),
    ("OFF", false)]

def nullWords : List Text := ["~", "null", "Null", "NULL", []]

/-- A text without its sign. -/
def unsigned (t : Text) : Text := (Numeral.takeSign t).2

def isDigitOrGap (c : CodePoint) : Bool := c.isDigit || c = '_'

/-- A digit and then digits and underscores. -/
def isGrouped : Text → Bool
  | [] => false
  | c :: rest => c.isDigit && rest.all isDigitOrGap

/-- A digit other than zero, and then digits and underscores. -/
def isCount : Text → Bool
  | [] => false
  | c :: rest => c.isDigit && c ≠ '0' && rest.all isDigitOrGap

/-- The pieces of a text between colons. -/
def splitColons : Text → List Text
  | [] => [[]]
  | c :: rest =>
    if c = ':' then [] :: splitColons rest
    else
      match splitColons rest with
      | [] => [[c]]
      | p :: ps => (c :: p) :: ps

/-- A digit of base sixty, of one figure or two. -/
def isSixty : Text → Bool
  | [a] => a.isDigit
  | [a, b] => a.isDigit && a.val < 0x36 && b.isDigit
  | _ => false

/-- Digits of base sixty after a first group that satisfies `p`. -/
def isSexagesimal (p : Text → Bool) (t : Text) : Bool :=
  match splitColons t with
  | first :: d :: ds => p first && isSixty d && ds.all isSixty
  | _ => false

/-- Whether a text is a mark and then one or more code points that satisfy `p`. -/
def isMarked (mark : Text) (p : CodePoint → Bool) (t : Text) : Bool :=
  match t.after? mark with
  | some (c :: rest) => p c && rest.all p
  | _ => false

/-- Whether a plain text is an integer. -/
def isInt (t : Text) : Bool :=
  let u := unsigned t
  isMarked "0b" (fun c => c = '0' || c = '1' || c = '_') u
    || isMarked "0" (fun c => (0x30 ≤ c.val && c.val < 0x38) || c = '_') u
    || u = Text.ofString "0" || isCount u
    || isMarked "0x" (fun c => c.hexValue?.isSome || c = '_') u
    || isSexagesimal isCount u

/-- Nothing, or an exponent with a sign. -/
def isExponent : Text → Bool
  | [] => true
  | e :: s :: d :: rest =>
    (e = 'e' || e = 'E') && (s = '-' || s = '+') && d.isDigit && rest.all CodePoint.isDigit
  | _ => false

/-- What stands before the first point of a text, and what stands after it. -/
def splitPoint? : Text → Option (Text × Text)
  | [] => none
  | c :: rest =>
    if c = '.' then some ([], rest) else (splitPoint? rest).map fun (a, b) => (c :: a, b)

/-- Whether a plain text is a number with a point. -/
def isFloat (t : Text) : Bool :=
  (match splitPoint? (unsigned t) with
    | none => false
    | some (whole, rest) =>
      (isGrouped whole && isExponent (rest.dropWhile isDigitOrGap))
        || (isSexagesimal isGrouped whole && rest.all isDigitOrGap))
    || (match t.after? "." with
      | some (d :: rest) => d.isDigit && isExponent (rest.dropWhile isDigitOrGap)
      | _ => false)
    || [Text.ofString ".inf", ".Inf", ".INF"].contains (unsigned t)
    || [Text.ofString ".nan", ".NaN", ".NAN"].contains t

/-- The tag of a scalar that is written plainly.  A line feed at the end of the text does not
count. -/
def ofPlain (text : Text) : Tag :=
  let t := if text.getLast? = some ('\n' : CodePoint) then text.dropLast else text
  if (boolWords.lookup t).isSome then .bool
  else if isFloat t then .float
  else if isInt t then .int
  else if t = Text.ofString "<<" then .merge
  else if nullWords.contains t then .null
  else if (Stamp.ofText? t).any Stamp.isPlain then .timestamp
  else if t = Text.ofString "=" then .value
  else if [Text.ofString "!", "&", "*"].contains t then .other
  else .str

end Tag

end JsonShape.Yaml
