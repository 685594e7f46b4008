import JsonShape.Json

/-!
# Loose values

A loose value is a value of a data format richer than JSON: beside JSON's it may be a run of bytes,
a tuple, a set, a date, or a dictionary whose keys are any values.  Options and history entries are
taken from loose values, and `Json.ofDatum?` takes a JSON tree from one.
-/

namespace JsonShape

/-- A loosely typed value. -/
inductive Datum
  | null
  | bool (value : Bool)
  | int (value : Int)
  | double (value : Double)
  | text (value : Text)
  | bytes (value : List UInt8)
  | date (written : Text)
  | tuple (items : List Datum)
  | set (items : List Datum)
  | list (items : List Datum)
  | dict (entries : List (Datum × Datum))

instance : Inhabited Datum := ⟨.null⟩

namespace Datum

/-! ### Equality of keys -/

/-- The number that a datum equals: truth values count as one and zero, whole doubles as
integers. -/
def number? : Datum → Option Number
  | .bool b => some (.int (if b then 1 else 0))
  | .int i => some (.int i)
  | .double d => some (match d.toInt? with | some i => .int i | none => .double d)
  | _ => none

/-- Whether two numbers are equal; no number at all differs from itself. -/
def sameNumber (a b : Number) : Bool := a = b && a ≠ .double .nan

mutual

/-- Whether two keys are one key of a dictionary. -/
def sameKey : Datum → Datum → Bool
  | .null, .null => true
  | .text a, .text b => a = b
  | .bytes a, .bytes b => a = b
  | .date a, .date b => a = b
  | .tuple as, .tuple bs => sameKeys as bs
  | a, b =>
    match a.number?, b.number? with
    | some a, some b => sameNumber a b
    | _, _ => false

def sameKeys : List Datum → List Datum → Bool
  | [], [] => true
  | a :: as, b :: bs => sameKey a b && sameKeys as bs
  | _, _ => false

end

/-- Puts an entry into a dictionary: an equal key keeps its place and takes the value. -/
def putEntry (key value : Datum) : List (Datum × Datum) → List (Datum × Datum)
  | [] => [(key, value)]
  | e :: rest => if e.1.sameKey key then (e.1, value) :: rest else e :: putEntry key value rest

/-- The dictionary of entries put one after another. -/
def dictOf (entries : List (Datum × Datum)) : Datum :=
  .dict (entries.foldl (fun d e => putEntry e.1 e.2 d) [])

/-- The set of some items. -/
def setOf (items : List Datum) : Datum :=
  .set (items.foldl (fun s x => if s.any (·.sameKey x) then s else s ++ [x]) [])

/-! ### Loose values and JSON -/

mutual

/-- A JSON value as a loose one. -/
def ofJson : Json → Datum
  | .null => .null
  | .bool b => .bool b
  | .number (.int i) => .int i
  | .number (.double d) => .double d
  | .string s => .text s
  | .array items => .list (ofItems items)
  | .object fields => .dict (ofFields fields)

def ofItems : List Json → List Datum
  | [] => []
  | x :: xs => ofJson x :: ofItems xs

def ofFields : List (Text × Json) → List (Datum × Datum)
  | [] => []
  | (k, v) :: fs => (.text k, ofJson v) :: ofFields fs

end

/-- Nothing, false, zero, or empty. -/
def isBlank : Datum → Bool
  | .null => true
  | .bool b => !b
  | .int i => i = 0
  | .double d => d.isZero
  | .text t => t.isEmpty
  | .bytes b => b.isEmpty
  | .date _ => false
  | .tuple xs | .set xs | .list xs => xs.isEmpty
  | .dict es => es.isEmpty

/-- The word for the type of a datum. -/
def typeWord : Datum → Text
  | .null => "NoneType"
  | .bool _ => "bool"
  | .int _ => "int"
  | .double _ => "float"
  | .text _ => "str"
  | .bytes _ => "bytes"
  | .date _ => "date"
  | .tuple _ => "tuple"
  | .set _ => "set"
  | .list _ => "list"
  | .dict _ => "dict"

end Datum

end JsonShape
