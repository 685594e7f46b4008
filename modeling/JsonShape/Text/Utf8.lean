import JsonShape.Text

/-!
# UTF-8

`Utf8.encode` writes a text as bytes, and `Utf8.decode` reads bytes back strictly: no surrogate, no
code point in more bytes than it needs, none above U+10FFFF, none cut short.
-/

namespace JsonShape

/-- A sequence of bytes. -/
abbrev Bytes := List UInt8

namespace Utf8

/-- The bytes of a code point; a surrogate has none. -/
def encodePoint (c : CodePoint) : Option Bytes :=
  let n := c.val
  if n < 0x80 then some [n.toUInt8]
  else if n < 0x800 then some [(0xC0 + n / 0x40).toUInt8, (0x80 + n % 0x40).toUInt8]
  else if c.isSurrogate then none
  else if n < 0x10000 then
    some [(0xE0 + n / 0x1000).toUInt8, (0x80 + n / 0x40 % 0x40).toUInt8, (0x80 + n % 0x40).toUInt8]
  else
    some [(0xF0 + n / 0x40000).toUInt8, (0x80 + n / 0x1000 % 0x40).toUInt8,
      (0x80 + n / 0x40 % 0x40).toUInt8, (0x80 + n % 0x40).toUInt8]

/-- The bytes of a text without surrogates. -/
def encode : Text → Option Bytes
  | [] => some []
  | c :: rest =>
    match encodePoint c, encode rest with
    | some bs, some rest => some (bs ++ rest)
    | _, _ => none

/-- The six bits that a continuation byte carries. -/
def tail? (b : UInt8) : Option Nat :=
  if 0x80 ≤ b.toNat ∧ b.toNat < 0xC0 then some (b.toNat - 0x80) else none

/-- The text that bytes encode. -/
def decode : Bytes → Option Text
  | [] => some []
  | b :: rest =>
    let n := b.toNat
    if n < 0x80 then (decode rest).map (.ofNat n :: ·)
    else if n < 0xC2 then none
    else if n < 0xE0 then
      match rest with
      | b₁ :: rest =>
        match tail? b₁ with
        | some x₁ => (decode rest).map (.ofNat ((n - 0xC0) * 0x40 + x₁) :: ·)
        | none => none
      | _ => none
    else if n < 0xF0 then
      match rest with
      | b₁ :: b₂ :: rest =>
        match tail? b₁, tail? b₂ with
        | some x₁, some x₂ =>
          let m := (n - 0xE0) * 0x1000 + x₁ * 0x40 + x₂
          if m < 0x800 ∨ (0xD800 ≤ m ∧ m < 0xE000) then none
          else (decode rest).map (.ofNat m :: ·)
        | _, _ => none
      | _ => none
    else if n < 0xF5 then
      match rest with
      | b₁ :: b₂ :: b₃ :: rest =>
        match tail? b₁, tail? b₂, tail? b₃ with
        | some x₁, some x₂, some x₃ =>
          let m := (n - 0xF0) * 0x40000 + x₁ * 0x1000 + x₂ * 0x40 + x₃
          if m < 0x10000 ∨ 0x110000 ≤ m then none else (decode rest).map (.ofNat m :: ·)
        | _, _, _ => none
      | _ => none
    else none

end Utf8

namespace Text

/-- Unifies line ends, `afterReturn` telling whether a carriage return stands right before. -/
def unifyFrom : (afterReturn : Bool) → Text → Text
  | _, [] => []
  | afterReturn, c :: rest =>
    if c = '\r' then '\n' :: unifyFrom true rest
    else if afterReturn && c = '\n' then unifyFrom false rest
    else c :: unifyFrom false rest

/-- A text with every line end written as a line feed: a carriage return, with or without a line
feed after it, becomes one. -/
def unifyNewlines (t : Text) : Text := unifyFrom false t

end Text

end JsonShape
