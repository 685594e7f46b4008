import JsonShape.Number.Double
import JsonShape.Number.Numeral

/-!
# Shortest decimal text of a double

The fewest significant digits that read back as the same double, and of those the nearest to it.
A finite double is the midpoint of an interval of reals that round to it, the ends included when its
significand is even.  For one digit, two digits and so on, only the two neighbours of the double on
the grid of that many digits need testing.
-/

namespace JsonShape.Double

/-- The `p` with `10 ^ (p - 1) ≤ num / den < 10 ^ p`, for positive `num` and `den`. -/
def decimalPoint (num den : Nat) : Int :=
  if den ≤ num then (Numeral.ofNat (num / den)).length
  else
    let z := (Numeral.ofNat (den / num)).length
    if num * tenTo (z - 1) = den then 2 - z else 1 - z

/-- A positive significand and exponent with the interval of reals that round to them, all scaled to
naturals over the common denominator `den`. -/
structure Interval where
  low : Nat
  mid : Nat
  high : Nat
  den : Nat
  closed : Bool

/-- The reals that round to `m · 2 ^ e`: half a step to each side, a quarter below a power of two,
where the steps get finer. -/
def interval (m : Nat) (e : Int) : Interval :=
  let up := twoTo (e - 2).toNat
  { low := (if m = twoTo 52 ∧ -1074 < e then 4 * m - 1 else 4 * m - 2) * up
    mid := 4 * m * up
    high := (4 * m + 2) * up
    den := twoTo (2 - e).toNat
    closed := m % 2 = 0 }

/-- Whether `c · 10 ^ s` rounds to the interval's double. -/
def Interval.holds (i : Interval) (s : Int) (c : Nat) : Bool :=
  let x := c * tenTo s.toNat * i.den
  let unit := tenTo (-s).toNat
  if i.closed then i.low * unit ≤ x && x ≤ i.high * unit else i.low * unit < x && x < i.high * unit

/-- The neighbour of the midpoint on the grid of multiples of `10 ^ s` that rounds to the double;
the nearer of the two, the even one of two equally near. -/
def Interval.onGrid? (i : Interval) (s : Int) : Option Nat :=
  let num := i.mid * tenTo (-s).toNat
  let den := i.den * tenTo s.toNat
  let c := num / den
  let r := num % den
  let lower := if c ≠ 0 && i.holds s c then some c else none
  let upper := if i.holds s (c + 1) then some (c + 1) else none
  match lower, upper with
  | some a, some b =>
    some (if 2 * r < den then a else if den < 2 * r then b else if c % 2 = 0 then a else b)
  | some a, none => some a
  | none, found => found

/-- The first of `fuel` grids, from `k` digits on, that holds a number of the interval. -/
def Interval.search (i : Interval) (point : Int) : (fuel k : Nat) → Nat × Int
  | 0, k => (i.mid / i.den, point - k)
  | fuel + 1, k =>
    match i.onGrid? (point - k) with
    | some c => (c, point - k)
    | none => i.search point fuel (k + 1)

/-- The shortest digits `c` and the scale `s` with `c · 10 ^ s` read back as `m · 2 ^ e`. -/
def shortest (m : Nat) (e : Int) : Nat × Int :=
  let i := interval m e
  i.search (decimalPoint i.mid i.den) 17 1

/-- Digits without the zeros at their end. -/
def trimZeros (digits : Text) : Text :=
  (digits.reverse.dropWhile (· = ('0' : CodePoint))).reverse

/-- The exponent after its mark: a sign and two digits at least. -/
def exponentText (e : Int) : Text :=
  (if e < 0 then "e-" else "e+") ++ Numeral.padded 2 e.natAbs

/-- The layout of digits whose decimal point stands after `point` of them: positional for points
from -3 to 16, with `.0` on whole numbers, scientific otherwise. -/
def layout (digits : Text) (point : Int) : Text :=
  if -4 < point ∧ point ≤ 16 then
    if point ≤ 0 then "0." ++ Numeral.zeros (-point).toNat ++ digits
    else if digits.length ≤ point.toNat then
      digits ++ Numeral.zeros (point.toNat - digits.length) ++ ".0"
    else digits.take point.toNat ++ "." ++ digits.drop point.toNat
  else
    digits.take 1 ++ (if digits.length = 1 then ([] : Text) else "." ++ digits.drop 1)
      ++ exponentText (point - 1)

/-- The text of a double: shortest digits, `inf` and `nan` for the others, a minus sign also on
zero. -/
def text (d : Double) : Text :=
  match d.parts with
  | .notANumber => "nan"
  | .infinite neg => if neg then "-inf" else "inf"
  | .finite neg m e =>
    let sign : Text := if neg then "-" else []
    if m = 0 then sign ++ "0.0"
    else
      let (c, s) := shortest m e
      let digits := Numeral.ofNat c
      sign ++ layout (trimZeros digits) (digits.length + s)

end JsonShape.Double
