import JsonShape.Text.Blank
import JsonShape.Text.Literal

/-!
# Reading integers leniently

An integer may have blanks around it, a sign, digits of any script, and single underscores between
digits.
-/

namespace JsonShape

/-- Why a text is no integer. -/
inductive IntegerError
  /-- A literal that spells no integer in the base. -/
  | malformed (base : Nat) (literal : Text)
  | tooManyDigits (count : Nat)

def IntegerError.message : IntegerError → Text
  | .malformed base literal =>
    "invalid literal for int() with base " ++ Numeral.ofNat base ++ ": " ++ literal.take 200
  | .tooManyDigits count => Numeral.limitText count

namespace Integer

/-- A text without the blanks at its two ends. -/
def strip (t : Text) : Text :=
  ((t.dropWhile CodePoint.isBlank).reverse.dropWhile CodePoint.isBlank).reverse

/-- The value of a digit in a base: a decimal digit of any script, or an ASCII letter. -/
def digit? (base : Nat) (c : CodePoint) : Option Nat :=
  (c.decimalValue?.or c.hexValue?).filter (· < base)

/-- Reads digits on: the value, the number of digits, and the rest.  `gap` tells that no underscore
may come here. -/
def digits (base : Nat) : (value count : Nat) → (gap : Bool) → Text → Option (Nat × Nat × Text)
  | v, n, gap, [] => if gap then none else some (v, n, [])
  | v, n, gap, c :: rest =>
    match digit? base c with
    | some d => digits base (v * base + d) (n + 1) false rest
    | none =>
      if gap then none
      else if c = '_' then digits base v n true rest
      else some (v, n, c :: rest)

/-- What follows the mark of a base, which may be left out. -/
def afterMark (base : Nat) (t : Text) : Text :=
  let mark : Option CodePoint :=
    if base = 2 then some 'b'
    else if base = 8 then some 'o'
    else if base = 16 then some 'x'
    else none
  match t, mark with
  | z :: m :: rest, some mark => if z = '0' ∧ m.lowerAscii = mark then rest else t
  | _, _ => t

/-- The integer that a text spells in a base.  Only in base ten the number of digits is limited. -/
def read (base : Nat) (t : Text) : Except IntegerError Int :=
  let (negative, body) := Numeral.takeSign (strip t)
  match digits base 0 0 true (afterMark base body) with
  | none => .error (.malformed base t.literal)
  | some (v, count, rest) =>
    if base = 10 ∧ Numeral.maxDigits < count then .error (.tooManyDigits count)
    else if rest ≠ [] then .error (.malformed base t.literal)
    else .ok (if negative then -(v : Int) else v)

end Integer

end JsonShape
