import JsonShape.History.Stamp
import JsonShape.Stack

/-!
# Entries

One conversion of a history: what was read, what was written, and when.
-/

namespace JsonShape

/-- The first `n` items; for a negative `n`, all but the last `-n`. -/
def front {α : Type} (n : Int) (l : List α) : List α :=
  if 0 ≤ n then l.take n.toNat else l.take (l.length - n.natAbs)

/-- A recorded conversion. -/
structure Entry where
  ident : Text
  input : Text
  output : Text
  stamp : Stamp
deriving DecidableEq

namespace Entry

/-- How much of an input is shown. -/
def previewLength : Int := 50

/-- The front of the input, with dots if that is not all. -/
def preview (e : Entry) (length : Int) : Text :=
  if e.input.length ≤ length then e.input else front length e.input ++ "..."

/-- The entry as an object. -/
def toJson (e : Entry) : Json :=
  .object [("id", .string e.ident), ("input", .string e.input), ("output", .string e.output),
    ("timestamp", .number (.int e.stamp))]

/-! ### Entries from loose values -/

/-- Why a value is no entry. -/
inductive ReadError
  | incomplete
  | display (error : Datum.DisplayError)
  | stamp (error : Stamp.ReadError)

def ReadError.message : ReadError → Text
  | .incomplete => "History entry missing id/input/output."
  | .display e => e.message
  | .stamp e => e.message

/-- The value of a field. -/
def field? (name : Text) (fields : List (Datum × Datum)) : Option Datum :=
  (fields.find? (·.1.sameKey (.text name))).map Prod.snd

/-- The entry of a dictionary.  It needs an ident that is not blank, an input and an output, which
are taken as displayed; the stamp is zero if there is none. -/
def ofFields (fields : List (Datum × Datum)) (stack : Stack := .standard) :
    Except ReadError Entry :=
  match field? "id" fields, field? "input" fields, field? "output" fields with
  | some ident, some input, some output =>
    if ident.isBlank then .error .incomplete
    else do
      let ident ← (stack.display ident).mapError .display
      let input ← (stack.display input).mapError .display
      let output ← (stack.display output).mapError .display
      let time := (field? "timestamp" fields).getD (.int 0)
      let stamp ← (Stamp.ofDatum time).mapError .stamp
      .ok ⟨ident, input, output, stamp⟩
  | _, _, _ => .error .incomplete

end Entry

end JsonShape
