import JsonShape.Calendar
import JsonShape.Number.Numeral

/-!
# Dates and times in YAML text

The form `year-month-day`, with a time of day and an offset from universal time after it or not.
-/

namespace JsonShape.Yaml

/-- A time of day with its offset. -/
structure StampTime where
  hour : Nat
  minute : Nat
  second : Nat
  /-- The sign, hours and minutes of the offset, if one is given in numbers. -/
  offset : Option (Bool × Nat × Nat)

/-- A date, with a time or not.  `padded` tells that month and day have two digits each. -/
structure Stamp where
  year : Nat
  month : Nat
  day : Nat
  padded : Bool
  time : Option StampTime

namespace Stamp

/-- Exactly `n` digits at the front of a text. -/
def takeDigits? (n : Nat) (t : Text) : Option (Nat × Text) :=
  if (t.take n).length = n ∧ (t.take n).all CodePoint.isDigit then
    some (Numeral.value (t.take n), t.drop n)
  else none

/-- Two digits or one at the front of a text, and whether there were two. -/
def takeShort? (t : Text) : Option (Nat × Bool × Text) :=
  match takeDigits? 2 t with
  | some (n, rest) => some (n, true, rest)
  | none => (takeDigits? 1 t).map fun (n, rest) => (n, false, rest)

/-- An offset: `Z`, or a sign with hours and perhaps minutes; it is the end of the text. -/
def takeOffset? (t : Text) : Option (Option (Bool × Nat × Nat)) :=
  match t with
  | [] => none
  | c :: rest =>
    if c = 'Z' then (if rest = [] then some none else none)
    else if c = '+' ∨ c = '-' then do
      let (hours, _, rest) ← takeShort? rest
      if rest = [] then some (some (c = '-', hours, 0))
      else
        let rest ← rest.after? ":"
        let (minutes, rest) ← takeDigits? 2 rest
        if rest = [] then some (some (c = '-', hours, minutes)) else none
    else none

def isGap (c : CodePoint) : Bool := c = ' ' || c = '\t'

/-- The time after a date. -/
def takeTime? (t : Text) : Option StampTime := do
  let t ← match t with
    | [] => none
    | c :: rest =>
      if c = 'T' ∨ c = 't' then some rest else if isGap c then some (rest.dropWhile isGap) else none
  let (hour, _, t) ← takeShort? t
  let t ← t.after? ":"
  let (minute, t) ← takeDigits? 2 t
  let t ← t.after? ":"
  let (second, t) ← takeDigits? 2 t
  let t := match t.after? "." with
    | some t => t.dropWhile CodePoint.isDigit
    | none => t
  if t = [] then some ⟨hour, minute, second, none⟩
  else
    let offset ← takeOffset? (t.dropWhile isGap)
    some ⟨hour, minute, second, offset⟩

/-- The stamp that a text spells. -/
def ofText? (t : Text) : Option Stamp := do
  let (year, t) ← takeDigits? 4 t
  let t ← t.after? "-"
  let (month, long, t) ← takeShort? t
  let t ← t.after? "-"
  let (day, long', t) ← takeShort? t
  if t = [] then some ⟨year, month, day, long && long', none⟩
  else
    let time ← takeTime? t
    some ⟨year, month, day, long && long', some time⟩

/-- Whether a plain text of this form is read as a date: without a time, month and day have two
digits. -/
def isPlain (s : Stamp) : Bool := s.padded || s.time.isSome

/-- Refuses an offset of a day or more. -/
def checkOffset : Option (Bool × Nat × Nat) → Except Calendar.Fault Unit
  | none => .ok ()
  | some (negative, hours, minutes) =>
    let size : Int := hours * 3600 + minutes * 60
    if size < 86400 then .ok ()
    else
      let seconds := if negative then -size else size
      .error (.offset (seconds.fdiv 86400) (seconds.fmod 86400).toNat)

/-- Refuses a stamp that does not exist. -/
def check (s : Stamp) : Except Calendar.Fault Unit :=
  match s.time with
  | none => Calendar.checkDate s.year s.month s.day
  | some t => do
    checkOffset t.offset
    Calendar.checkDate s.year s.month s.day
    Calendar.checkTime t.hour t.minute t.second

end Stamp

end JsonShape.Yaml
