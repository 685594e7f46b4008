import JsonShape.Text.Utf8

/-!
# Base 64

Bytes as letters, four for three bytes.  Code points outside the alphabet are passed over.
-/

namespace JsonShape.Base64

/-- The six bits of a code point of the alphabet. -/
def sextet? (c : CodePoint) : Option Nat :=
  if c.isUpper then some (c.val - 0x41)
  else if c.isLower then some (c.val - 0x61 + 26)
  else if c.isDigit then some (c.val - 0x30 + 52)
  else if c = '+' then some 62
  else if c = '/' then some 63
  else none

/-- Reads on after `place` letters of a group, whose last bits are `left`, and `pads` signs of
padding. A group that is not full has to be padded. -/
def decodeFrom : (place left pads : Nat) → Text → Option Bytes
  | place, _, _, [] => if place = 0 then some [] else none
  | place, left, pads, c :: rest =>
    if c = '=' then
      if 2 ≤ place ∧ 4 ≤ place + pads + 1 then some []
      else decodeFrom place left (if 2 ≤ place then pads + 1 else pads) rest
    else
      match sextet? c with
      | none => decodeFrom place left pads rest
      | some n =>
        if place = 0 then decodeFrom 1 n 0 rest
        else if place = 1 then
          (decodeFrom 2 (n % 16) 0 rest).map ((left * 4 + n / 16).toUInt8 :: ·)
        else if place = 2 then
          (decodeFrom 3 (n % 4) 0 rest).map ((left * 16 + n / 4).toUInt8 :: ·)
        else (decodeFrom 0 0 0 rest).map ((left * 64 + n).toUInt8 :: ·)

/-- The bytes that a text spells. -/
def decode (t : Text) : Option Bytes := decodeFrom 0 0 0 t

end JsonShape.Base64
