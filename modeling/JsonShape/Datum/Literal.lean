import JsonShape.Datum
import JsonShape.Number.Shortest
import JsonShape.Text.Literal

/-!
# Loose values as text

`Datum.literal` writes a loose value so that its type can be told: texts stand between quotes, and
what cannot be printed is escaped.  `Datum.display` is the same, except that a text stands for
itself.  A value with too long an integer in it has no text.

`Json.ofDatum?` takes a JSON tree from a loose value; the keys of its objects are displayed.
-/

namespace JsonShape

namespace Datum

/-- Why a datum cannot be displayed. -/
inductive DisplayError
  /-- An integer in it has too many digits. -/
  | tooManyDigits
  /-- It is nested too deeply for the stack. -/
  | tooDeep
deriving DecidableEq

def DisplayError.message : DisplayError → Text
  | .tooManyDigits => Numeral.writeLimitText
  | .tooDeep => "maximum recursion depth exceeded"

/-- The literal of an integer, which has so many digits at most. -/
def intLiteral (i : Int) : Except DisplayError Text :=
  if i.natAbs < tenTo Numeral.maxDigits then .ok (Numeral.ofInt i) else .error .tooManyDigits

/-- The literal of a tuple of some literals; a comma marks a single one as the item of a tuple. -/
def tupleLiteral : List Text → Text
  | [t] => "(" ++ t ++ ",)"
  | ts => "(" ++ Text.join ", " ts ++ ")"

/-- The literal of a set of some literals. -/
def setLiteral : List Text → Text
  | [] => "set()"
  | ts => "\x7b" ++ Text.join ", " ts ++ "\x7d"

mutual

/-- The literal of a datum. -/
def literal : Datum → Except DisplayError Text
  | .null => .ok "None"
  | .bool b => .ok (if b then "True" else "False")
  | .int i => intLiteral i
  | .double d => .ok d.text
  | .text t => .ok t.literal
  | .bytes b => .ok (bytesLiteral b)
  | .date t => .ok t
  | .tuple xs => (literals xs).map tupleLiteral
  | .set xs => (literals xs).map setLiteral
  | .list xs => (literals xs).map fun ts => "[" ++ Text.join ", " ts ++ "]"
  | .dict es => (entryLiterals es).map fun ts => "\x7b" ++ Text.join ", " ts ++ "\x7d"

def literals : List Datum → Except DisplayError (List Text)
  | [] => .ok []
  | x :: xs => do
    let t ← literal x
    let ts ← literals xs
    .ok (t :: ts)

def entryLiterals : List (Datum × Datum) → Except DisplayError (List Text)
  | [] => .ok []
  | (k, v) :: es => do
    let key ← literal k
    let value ← literal v
    let ts ← entryLiterals es
    .ok ((key ++ ": " ++ value) :: ts)

end

/-- A text itself, and the literal of anything else. -/
def display : Datum → Except DisplayError Text
  | .text t => .ok t
  | d => d.literal

end Datum

namespace Json

/-- Why a datum has no JSON tree. -/
inductive TreeError
  /-- No JSON value stands for the datum. -/
  | foreign (datum : Datum)
  /-- A key cannot be displayed. -/
  | key (error : Datum.DisplayError)

def TreeError.message : TreeError → Text
  | .foreign d => "Unsupported JSON value of type " ++ d.typeWord
  | .key e => e.message

mutual

/-- The JSON tree of a datum.  Keys are taken as displayed, whether or not two become equal. -/
def ofDatum? : Datum → Except TreeError Json
  | .null => .ok .null
  | .bool b => .ok (.bool b)
  | .int i => .ok (.number (.int i))
  | .double d => .ok (.number (.double d))
  | .text t => .ok (.string t)
  | .list xs => (ofItems? xs).map .array
  | .dict es => (ofEntries? es).map .object
  | other => .error (.foreign other)

def ofItems? : List Datum → Except TreeError (List Json)
  | [] => .ok []
  | x :: xs => do
    let v ← ofDatum? x
    let vs ← ofItems? xs
    .ok (v :: vs)

def ofEntries? : List (Datum × Datum) → Except TreeError (List (Text × Json))
  | [] => .ok []
  | (k, x) :: es => do
    let name ← k.display.mapError .key
    let v ← ofDatum? x
    let fs ← ofEntries? es
    .ok ((name, v) :: fs)

end

end Json

end JsonShape
