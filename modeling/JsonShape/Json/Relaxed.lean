import JsonShape.Json.Reader

/-!
# Relaxed JSON

Options and histories are kept in files of a dialect that accepts more than the JSON grammar:
strings hold any character but NUL, numbers may have zeros in front or lack digits on one side of
the point, and not a number and the infinities have names.
-/

namespace JsonShape.Json

/-- The deepest nesting in a file. -/
def maxRelaxedDepth : Nat := 1024

/-- The digits after a point, which may be missing. -/
def takeRelaxedFraction : Text → Option Text × Text
  | [] => (none, [])
  | c :: rest =>
    if c = '.' then
      let (ds, rest) := Numeral.span rest
      (some ds, rest)
    else (none, c :: rest)

/-- Whether an exponent mark stands at the front. -/
def startsExponent : Text → Bool
  | [] => false
  | c :: _ => c = 'e' || c = 'E'

/-- The number after its sign. -/
def readRelaxedNumber (negative : Bool) (t : Text) : Except ReadError (Json × Text) :=
  let (whole, rest) := Numeral.span t
  let (fraction, rest) := takeRelaxedFraction rest
  let (exponent, rest) := takeExponent rest
  if startsExponent rest && exponent.isNone then .error (.missing .value rest.length)
  else
    match fraction, exponent with
    | none, none =>
      if Numeral.maxDigits < whole.length then .error (.tooManyDigits whole.length)
      else
        let v : Int := Numeral.value whole
        .ok (.number (.int (if negative then -v else v)), rest)
    | _, _ =>
      let token : NumberToken := ⟨negative, whole, fraction.getD [], exponent⟩
      if whole = [] && token.fraction = [] then .error (.missing .value rest.length)
      else .ok (.number (.double token.toDouble), rest)

/-- A scalar that is not a string. -/
def readRelaxedBare (t : Text) : Except ReadError (Json × Text) :=
  if let some rest := t.after? "null" then .ok (.null, rest)
  else if let some rest := t.after? "true" then .ok (.bool true, rest)
  else if let some rest := t.after? "false" then .ok (.bool false, rest)
  else if let some rest := t.after? "NaN" then .ok (.number (.double .nan), rest)
  else if let some rest := t.after? "Infinity" then
    .ok (.number (.double (.infinity false)), rest)
  else if let some rest := t.after? "-Infinity" then
    .ok (.number (.double (.infinity true)), rest)
  else
    match t with
    | [] => .error (.missing .value 0)
    | c :: rest =>
      if c = '-' then readRelaxedNumber true rest
      else if c.isDigit then readRelaxedNumber false t
      else .error (.missing .value t.length)

/-- The dialect of options and history files. -/
def relaxed : Dialect := ⟨fun c => c.val ≠ 0, readRelaxedBare⟩

/-- **The value that the text of a file stands for.** -/
def readRelaxed (t : Text) : Except ReadError Json := readWithin relaxed maxRelaxedDepth t

end JsonShape.Json
