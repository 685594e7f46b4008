import JsonShape.Number.Double
import JsonShape.Text

/-!
# JSON values

The tree of a JSON document.  Whole numbers and numbers with a fraction or an exponent are told
apart, and the fields of an object keep their order.
-/

namespace JsonShape

/-- A number: a numeral without fraction and exponent is an unbounded integer, any other a
double. -/
inductive Number
  | int (value : Int)
  | double (value : Double)
deriving DecidableEq

/-- A JSON value. -/
inductive Json
  | null
  | bool (value : Bool)
  | number (value : Number)
  | string (value : Text)
  | array (items : List Json)
  | object (fields : List (Text × Json))

instance : Inhabited Json := ⟨.null⟩

/-- A JSON value that can stand at the root of a document. -/
inductive Document
  | array (items : List Json)
  | object (fields : List (Text × Json))

namespace Json

/-- The document whose root is the value, unless the value is a scalar. -/
def document? : Json → Option Document
  | .array items => some (.array items)
  | .object fields => some (.object fields)
  | _ => none

end Json

/-- The root of a document as a value. -/
def Document.root : Document → Json
  | .array items => .array items
  | .object fields => .object fields

end JsonShape
