import JsonShape.Number.Double
import JsonShape.Yaml.Fault
import JsonShape.Yaml.Tag

/-!
# Numbers in YAML text

Integers and doubles as the tags for them spell them: with underscores between digits, in base two,
eight, sixteen and sixty.
-/

namespace JsonShape.Yaml

/-- A text without its underscores. -/
def dropGaps (t : Text) : Text := t.filter (· ≠ ('_' : CodePoint))

/-! ### Integers -/

def readIn (base : Nat) (t : Text) : Except Fault Int :=
  match Integer.read base t with
  | .ok n => .ok n
  | .error e => .error (.badInteger e)

/-- The digits of base sixty from the most significant one on. -/
def readSixty : (value : Int) → List Text → Except Fault Int
  | v, [] => .ok v
  | v, d :: ds => do
    let n ← readIn 10 d
    readSixty (v * 60 + n) ds

/-- The integer of a text without underscores and sign. -/
def readPlainInt (t : Text) : Except Fault Int :=
  if t = [] then .error .emptyNumber
  else if t = Text.ofString "0" then .ok 0
  else if let some digits := t.after? "0b" then readIn 2 digits
  else if let some digits := t.after? "0x" then readIn 16 digits
  else if t.head? = some ('0' : CodePoint) then readIn 8 t
  else if t.contains (':' : CodePoint) then readSixty 0 (Tag.splitColons t)
  else readIn 10 t

/-- The integer that a text spells. -/
def readInt (text : Text) : Except Fault Int := do
  let t := dropGaps text
  if t = [] then .error .emptyNumber
  let (negative, body) := Numeral.takeSign t
  let n ← readPlainInt body
  .ok (if negative then -n else n)

/-! ### Doubles -/

/-- A number in decimal digits: `± digits · 10 ^ exponent`. -/
structure Decimal where
  negative : Bool
  digits : Nat
  exponent : Int

/-- Digits, a point and an exponent; one digit at least. -/
def Decimal.ofText? (text : Text) : Option Decimal := do
  let (negative, t) := Numeral.takeSign (Integer.strip text)
  let (whole, t) := Numeral.span t
  let (fraction, t) := match t.after? "." with
    | some t => Numeral.span t
    | none => ([], t)
  if whole = [] && fraction = [] then none
  else
    let digits := Numeral.value (whole ++ fraction)
    match t with
    | [] => some ⟨negative, digits, -fraction.length⟩
    | e :: t =>
      if e = 'e' || e = 'E' then
        let (down, t) := Numeral.takeSign t
        let (power, t) := Numeral.span t
        if power = [] || t ≠ [] then none
        else
          let power : Int := Numeral.value power
          some ⟨negative, digits, (if down then -power else power) - fraction.length⟩
      else none

/-- A text with the digits of all scripts in ASCII. -/
def asciiDigits (t : Text) : Text :=
  t.map fun c => (c.decimalValue?.map CodePoint.hexDigit).getD c

/-- The double that a text spells in digits or as a word. -/
def readDouble (t : Text) : Except Fault Double :=
  match Decimal.ofText? (asciiDigits t) with
  | some d => .ok (.ofDecimal d.negative d.digits d.exponent)
  | none =>
    let (negative, word) := Numeral.takeSign (Integer.strip t)
    if word = Text.ofString "inf" || word = Text.ofString "infinity" then .ok (.infinity negative)
    else if word = Text.ofString "nan" then .ok .nan
    else .error (.badDouble t)

/-- The double of digits of base sixty, the least significant one first; `unit` is what the first of
them counts. -/
def sumSixtieths (sum : Double) (unit : Nat) : List Double → Double
  | [] => sum
  | d :: ds => sumSixtieths (sum.add (d.mul (.ofIntDiv unit 1))) (unit * 60) ds

/-- The digits of base sixty that a double may have: there is no greater power of sixty. -/
def maxSixtieths : Nat := 174

/-- The double of a text that has a tag for it. -/
def readFloat (text : Text) : Except Fault Double := do
  let t := (dropGaps text).map CodePoint.lowerAscii
  if t = [] then .error .emptyNumber
  let (negative, body) := Numeral.takeSign t
  let sign : Int := if negative then -1 else 1
  if body = Text.ofString ".inf" then .ok (.infinity negative)
  else if body = Text.ofString ".nan" then .ok .nan
  else if body.contains (':' : CodePoint) then
    let digits ← (Tag.splitColons body).mapM readDouble
    if maxSixtieths < digits.length then .error .hugeScale
    .ok ((Double.ofIntDiv sign 1).mul (sumSixtieths (.ofIntDiv 0 1) 1 digits.reverse))
  else
    let d ← readDouble body
    .ok ((Double.ofIntDiv sign 1).mul d)

end JsonShape.Yaml
