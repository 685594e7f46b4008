import JsonShape.Number.Power

/-!
# Doubles

Numbers of the IEEE 754 format binary64, held as their sixty-four bits and computed with in exact
arithmetic on naturals.  `Double.ofRatio` rounds a ratio to the nearest double, ties to even;
reading a decimal, scaling and dividing are that one rounding.
-/

namespace JsonShape

/-- A binary64 number. -/
structure Double where
  bits : UInt64
deriving DecidableEq

namespace Double

/-- What the bits of a double stand for: `± significand · 2 ^ exponent`, an infinity, or no
number. -/
inductive Parts
  | finite (negative : Bool) (significand : Nat) (exponent : Int)
  | infinite (negative : Bool)
  | notANumber
deriving DecidableEq

def isNegative (d : Double) : Bool := twoTo 63 ≤ d.bits.toNat

/-- The bits without the sign. -/
def magnitude (d : Double) : Nat := d.bits.toNat % twoTo 63

def parts (d : Double) : Parts :=
  let field : Nat := d.magnitude / twoTo 52
  let fraction : Nat := d.magnitude % twoTo 52
  if field = 2047 then (if fraction = 0 then .infinite d.isNegative else .notANumber)
  else if field = 0 then .finite d.isNegative fraction (-1074)
  else .finite d.isNegative (twoTo 52 + fraction) ((field : Int) - 1075)

/-- The double of a sign and a magnitude. -/
def ofMagnitude (negative : Bool) (magnitude : Nat) : Double :=
  ⟨(if negative then twoTo 63 + magnitude else magnitude).toUInt64⟩

/-- The magnitude of the infinities; every finite one is smaller. -/
def infiniteMagnitude : Nat := 2047 * twoTo 52

def infinity (negative : Bool) : Double := ofMagnitude negative infiniteMagnitude

def nan : Double := ⟨0x7FF8000000000000⟩

/-- A quotient rounded to the nearest natural number, a tie to the even one. -/
def roundDiv (num den : Nat) : Nat :=
  let q := num / den
  let r := num % den
  if den < 2 * r ∨ (2 * r = den ∧ q % 2 = 1) then q + 1 else q

/-- The greatest `e` with `2 ^ e ≤ num / den`, for positive `num` and `den`. -/
def ratioLog2 (num den : Nat) : Int :=
  let e : Int := (num.log2 : Int) - den.log2
  if num * twoTo (-e).toNat < den * twoTo e.toNat then e - 1 else e

/-- The double nearest to `± num / den`, a tie to the even significand; infinite from half a step
above the largest finite one. -/
def ofRatio (negative : Bool) (num den : Nat) : Double :=
  if num = 0 then ofMagnitude negative 0
  else
    let q := max (ratioLog2 num den - 52) (-1074)
    let m := roundDiv (num * twoTo (-q).toNat) (den * twoTo q.toNat)
    -- the carry to `2 ^ 53` moves into the exponent field by itself
    ofMagnitude negative (min ((q + 1074).toNat * twoTo 52 + m) infiniteMagnitude)

/-- The double nearest to `± digits · 10 ^ exponent`. -/
def ofDecimal (negative : Bool) (digits : Nat) (exponent : Int) : Double :=
  if digits = 0 then ofMagnitude negative 0
  else if 400 < exponent then infinity negative
  else if exponent < -400 - (digits.log2 : Int) then ofMagnitude negative 0
  else ofRatio negative (digits * tenTo exponent.toNat) (tenTo (-exponent).toNat)

/-- The double nearest to an integer divided by a positive number. -/
def ofIntDiv (n : Int) (den : Nat) : Double := ofRatio (n < 0) n.natAbs den

/-- The double nearest to `n · 2 ^ exponent`; nothing has the given sign. -/
def ofScaled (negative : Bool) (n : Nat) (exponent : Int) : Double :=
  ofRatio negative (n * twoTo exponent.toNat) (twoTo (-exponent).toNat)

/-- The product of two doubles. -/
def mul (a b : Double) : Double :=
  let negative := a.isNegative ^^ b.isNegative
  match a.parts, b.parts with
  | .finite _ m e, .finite _ n f => ofScaled negative (m * n) (e + f)
  | .infinite _, .infinite _ => infinity negative
  | .infinite _, .finite _ n _ => if n = 0 then nan else infinity negative
  | .finite _ m _, .infinite _ => if m = 0 then nan else infinity negative
  | _, _ => nan

/-- The sum of two doubles. -/
def add (a b : Double) : Double :=
  match a.parts, b.parts with
  | .finite s m e, .finite t n f =>
    -- both in units of the smaller exponent
    let unit := min e f
    let signed (negative : Bool) (n : Nat) : Int := if negative then -(n : Int) else n
    let sum := signed s (m * twoTo (e - unit).toNat) + signed t (n * twoTo (f - unit).toNat)
    ofScaled (if sum = 0 then s && t else sum < 0) sum.natAbs unit
  | .infinite s, .infinite t => if s = t then a else nan
  | .infinite _, .finite .. => a
  | .finite .., .infinite _ => b
  | _, _ => nan

def isZero (d : Double) : Bool := d.magnitude = 0

/-- The double nearest to `d` times a natural number. -/
def scale (d : Double) (k : Nat) : Double :=
  match d.parts with
  | .finite neg m e => ofRatio neg (m * k * twoTo e.toNat) (twoTo (-e).toNat)
  | _ => d

/-- The integer part, towards zero, of a finite double. -/
def truncate? (d : Double) : Option Int :=
  match d.parts with
  | .finite neg m e =>
    let n : Nat := m * twoTo e.toNat / twoTo (-e).toNat
    some (if neg then -(n : Int) else n)
  | _ => none

/-- The integer that a double equals, if it is whole. -/
def toInt? (d : Double) : Option Int :=
  match d.parts with
  | .finite neg m e =>
    if m * twoTo e.toNat % twoTo (-e).toNat = 0 then
      let n : Nat := m * twoTo e.toNat / twoTo (-e).toNat
      some (if neg then -(n : Int) else n)
    else none
  | _ => none

/-- The greatest integer not above a finite double. -/
def floor? (d : Double) : Option Int :=
  match d.parts with
  | .finite neg m e =>
    let n : Nat := m * twoTo e.toNat
    some (Int.fdiv (if neg then -(n : Int) else n) (twoTo (-e).toNat))
  | _ => none

end Double

end JsonShape
