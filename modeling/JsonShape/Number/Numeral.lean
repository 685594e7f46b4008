import JsonShape.Text

/-!
# Decimal numerals

Whole numbers as runs of decimal digits: `Numeral.ofNat` writes one, `Numeral.value` reads one.
-/

namespace JsonShape.Numeral

/-- The decimal digits of a natural number. -/
def ofNat (n : Nat) : Text := (Nat.toDigits 10 n).map CodePoint.ofChar

/-- The decimal digits of an integer, after a minus sign if it is negative. -/
def ofInt : Int → Text
  | .ofNat n => ofNat n
  | .negSucc n => "-" ++ ofNat (n + 1)

/-- The number that a run of decimal digits stands for. -/
def value (digits : Text) : Nat := digits.foldl (fun n c => 10 * n + c.digitValue) 0

/-- A run of `n` zeros. -/
def zeros (n : Nat) : Text := List.replicate n '0'

/-- The digits of `n`, with zeros in front up to `width`. -/
def padded (width n : Nat) : Text := zeros (width - (ofNat n).length) ++ ofNat n

/-- The last `width` hexadecimal digits of `n`, in small letters. -/
def hex : (width n : Nat) → Text
  | 0, _ => []
  | w + 1, n => hex w (n / 16) ++ [CodePoint.hexDigit (n % 16)]

/-- A sign, if there is one: whether it is a minus, and what follows. -/
def takeSign : Text → Bool × Text
  | [] => (false, [])
  | c :: rest =>
    if c = '-' then (true, rest)
    else if c = '+' then (false, rest)
    else (false, c :: rest)

/-- The longest run of decimal digits at the front, and what follows it. -/
def span (t : Text) : Text × Text := (t.takeWhile CodePoint.isDigit, t.dropWhile CodePoint.isDigit)

/-- The longest integer that is read or written, in digits. -/
def maxDigits : Nat := 4300

/-- The refusal to read an integer of `count` digits. -/
def limitText (count : Nat) : Text :=
  "Exceeds the limit (4300 digits) for integer string conversion: value has " ++ ofNat count
    ++ " digits; use sys.set_int_max_str_digits() to increase the limit"

/-- The refusal to write an integer. -/
def writeLimitText : Text :=
  "Exceeds the limit (4300 digits) for integer string conversion; " ++
    "use sys.set_int_max_str_digits() to increase the limit"

end JsonShape.Numeral
