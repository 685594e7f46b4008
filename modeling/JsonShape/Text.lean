/-!
# Text

A text is a list of Unicode code points.  A document may spell a surrogate as an escape, so a text
may hold surrogates one by one, which `String` cannot; everything that is read, inferred or written
is therefore a `Text`.  String literals stand for the texts of their characters.
-/

namespace JsonShape

/-- A Unicode code point, surrogates included. -/
abbrev CodePoint := Fin 0x110000

/-- A sequence of code points. -/
abbrev Text := List CodePoint

namespace CodePoint

/-- The code point of a character. -/
def ofChar (c : Char) : CodePoint :=
  ⟨c.toNat, by
    have h := c.valid
    simp only [UInt32.isValidChar, Nat.isValidChar] at h
    simp only [Char.toNat, UInt32.toNat] at *
    omega⟩

instance : Coe Char CodePoint := ⟨ofChar⟩

/-- The code point of a number below `0x110000`; the replacement character for a larger one. -/
def ofNat (n : Nat) : CodePoint := if h : n < 0x110000 then ⟨n, h⟩ else ofChar '\uFFFD'

/-- First half of a surrogate pair. -/
def isHighSurrogate (c : CodePoint) : Bool := 0xD800 ≤ c.val && c.val < 0xDC00

/-- Second half of a surrogate pair. -/
def isLowSurrogate (c : CodePoint) : Bool := 0xDC00 ≤ c.val && c.val < 0xE000

def isSurrogate (c : CodePoint) : Bool := 0xD800 ≤ c.val && c.val < 0xE000

/-- The code point that a surrogate pair stands for. -/
def ofSurrogates (high low : CodePoint) : CodePoint :=
  ofNat (0x10000 + (high.val - 0xD800) * 0x400 + (low.val - 0xDC00))

/-- `0` to `9`. -/
def isDigit (c : CodePoint) : Bool := 0x30 ≤ c.val && c.val ≤ 0x39

/-- `a` to `z`. -/
def isLower (c : CodePoint) : Bool := 0x61 ≤ c.val && c.val ≤ 0x7A

/-- `A` to `Z`. -/
def isUpper (c : CodePoint) : Bool := 0x41 ≤ c.val && c.val ≤ 0x5A

def isLetter (c : CodePoint) : Bool := c.isLower || c.isUpper

/-- The value of a decimal digit. -/
def digitValue (c : CodePoint) : Nat := c.val - 0x30

/-- The value of a hexadecimal digit of either case. -/
def hexValue? (c : CodePoint) : Option Nat :=
  if c.isDigit then some (c.val - 0x30)
  else if 0x61 ≤ c.val ∧ c.val ≤ 0x66 then some (c.val - 0x57)
  else if 0x41 ≤ c.val ∧ c.val ≤ 0x46 then some (c.val - 0x37)
  else none

/-- The capital of an ASCII small letter; any other code point is kept. -/
def upperAscii (c : CodePoint) : CodePoint := if c.isLower then ofNat (c.val - 32) else c

/-- The small letter of an ASCII capital; any other code point is kept. -/
def lowerAscii (c : CodePoint) : CodePoint := if c.isUpper then ofNat (c.val + 32) else c

/-- The digit for a number below sixteen, in small letters. -/
def hexDigit (n : Nat) : CodePoint := if n < 10 then ofNat (0x30 + n) else ofNat (0x57 + n)

end CodePoint

namespace Text

/-- The code points of a string. -/
def ofString (s : String) : Text := s.toList.map CodePoint.ofChar

instance : Coe String Text := ⟨ofString⟩

/-- The string of a text; a surrogate, which no string can hold, becomes the replacement
character. -/
def toString (t : Text) : String :=
  String.ofList (t.map fun c => if c.isSurrogate then '\uFFFD' else Char.ofNat c.val)

/-- What follows `word` at the front of a text. -/
def after? : (text word : Text) → Option Text
  | t, [] => some t
  | [], _ :: _ => none
  | c :: t, w :: ws => if c = w then after? t ws else none

/-- Whether a text comes no later than another in the order of their code points. -/
def notAfter : Text → Text → Bool
  | [], _ => true
  | _ :: _, [] => false
  | c :: t, d :: u => c.val < d.val || (c = d && notAfter t u)

/-- The pieces of a text before, between and after its separators. -/
def splitWhere (isSeparator : CodePoint → Bool) : Text → List Text
  | [] => [[]]
  | c :: t =>
    if isSeparator c then [] :: splitWhere isSeparator t
    else
      match splitWhere isSeparator t with
      | [] => [[c]]
      | p :: ps => (c :: p) :: ps

/-- The pieces of a text before, between and after the places of a separator. -/
def split (separator : CodePoint) (t : Text) : List Text := splitWhere (· = separator) t

/-- What stands before the first `stop` and what follows it; nothing refused may come before. -/
def upTo (stop : CodePoint) (refused : CodePoint → Bool) : Text → Option (Text × Text)
  | [] => none
  | c :: t =>
    if c = stop then some ([], t)
    else if refused c then none
    else (upTo stop refused t).map fun r => (c :: r.1, r.2)

theorem length_upTo {stop : CodePoint} {refused : CodePoint → Bool} {t inside rest : Text}
    (h : upTo stop refused t = some (inside, rest)) : rest.length < t.length := by
  induction t generalizing inside rest with
  | nil => simp [upTo] at h
  | cons c t ih =>
    simp only [upTo] at h
    split at h
    · simp_all
    · split at h
      · simp at h
      · obtain ⟨⟨i, r⟩, hr, he⟩ := Option.map_eq_some_iff.1 h
        simp only [Prod.mk.injEq] at he
        have := ih hr
        simp [← he.2]
        omega

/-- The texts with `separator` between any two neighbours. -/
def join (separator : Text) (parts : List Text) : Text := List.intercalate separator parts

theorem forall_mem_join {P : CodePoint → Prop} {separator : Text} {parts : List Text}
    (hseparator : ∀ c ∈ separator, P c) (h : ∀ p ∈ parts, ∀ c ∈ p, P c) :
    ∀ c ∈ join separator parts, P c := by
  rw [join]
  induction parts with
  | nil => exact List.forall_mem_nil _
  | cons p ps ih =>
    obtain ⟨hp, hrest⟩ := List.forall_mem_cons.1 h
    cases ps with
    | nil =>
      rw [List.intercalate_singleton]
      exact hp
    | cons q ps =>
      rw [List.intercalate_cons_cons]
      exact List.forall_mem_append.2 ⟨List.forall_mem_append.2 ⟨hp, hseparator⟩, ih hrest⟩

/-- A run of `n` spaces. -/
def spaces (n : Nat) : Text := List.replicate n ' '

/-- Whether some code point is a surrogate, so that no encoding can hold the text. -/
def hasSurrogate (t : Text) : Bool := t.any CodePoint.isSurrogate

end Text

end JsonShape
