import JsonShape.Calendar
import JsonShape.Datum.Literal
import JsonShape.Number.Integer

/-!
# Stamps

A stamp is a point in time, in milliseconds since the start of 1970 in universal time.  It is taken
from a clock of seconds or from a loose value, and shown by month, day, hour and minute.
-/

namespace JsonShape

/-- Milliseconds since the start of 1970. -/
abbrev Stamp := Int

namespace Stamp

/-- The stamp of a clock of seconds, cut to whole milliseconds. -/
def ofSeconds (seconds : Double) : Stamp := (seconds.scale 1000).truncate?.getD 0

/-! ### Stamps from loose values -/

/-- Why a loose value is no stamp. -/
inductive ReadError
  | integer (error : IntegerError)
  | infinite
  | notANumber
  | notNumeric (type : Text)

def ReadError.message : ReadError → Text
  | .integer e => e.message
  | .infinite => "cannot convert float infinity to integer"
  | .notANumber => "cannot convert float NaN to integer"
  | .notNumeric type =>
    "int() argument must be a string, a bytes-like object or a real number, not '" ++ type ++ "'"

/-- The integer that a run of bytes spells in ASCII. -/
def ofBytes (b : List UInt8) : Except IntegerError Stamp :=
  if b.all (· < 0x80) then
    (Integer.read 10 (b.map fun x => .ofNat x.toNat)).mapError fun e =>
      match e with
      | .malformed base _ => .malformed base (bytesLiteral b)
      | e => e
  else .error (.malformed 10 (bytesLiteral b))

/-- The stamp that a loose value gives: numbers are cut to integers, and texts spell them. -/
def ofDatum : Datum → Except ReadError Stamp
  | .bool b => .ok (if b then 1 else 0)
  | .int i => .ok i
  | .double d =>
    match d.parts with
    | .infinite _ => .error .infinite
    | .notANumber => .error .notANumber
    | .finite .. => .ok (d.truncate?.getD 0)
  | .text t => (Integer.read 10 t).mapError .integer
  | .bytes b => (ofBytes b).mapError .integer
  | other => .error (.notNumeric other.typeWord)

/-! ### Stamps as text -/

/-- Why a stamp cannot be shown. -/
inductive ShowError
  /-- Its seconds are no double. -/
  | beyondDoubles
  /-- Its seconds do not fit into sixty-four bits. -/
  | beyondClock
  /-- Its year, less 1900, does not fit into thirty-two bits. -/
  | beyondYears
  | date (fault : Calendar.Fault)

def ShowError.message : ShowError → Text
  | .beyondDoubles => "integer division result too large for a float"
  | .beyondClock => "timestamp out of range for platform time_t"
  | .beyondYears => "Value too large for defined data type"
  | .date fault => fault.message

/-- The seconds of a stamp as a double. -/
def seconds (s : Stamp) : Double := .ofIntDiv s 1000

/-- A number of one or two digits, with two. -/
def twoDigits (n : Nat) : Text := Numeral.padded 2 n

/-- The hour and minute of a second of the day, by a clock of twelve hours. -/
def clockText (second : Nat) : Text :=
  let hour := second / 3600
  let minute := second / 60 % 60
  let shown := if hour % 12 = 0 then 12 else hour % 12
  twoDigits shown ++ ":" ++ twoDigits minute ++ (if hour < 12 then " AM" else " PM")

/-- A day number and a second of that day, month and day first.  Dates are shown from the second day
of the year 1 to the end of the year 9999; other years are named as they wrap around in thirty-two
bits. -/
def dateText (day : Int) (second : Nat) : Except ShowError Text :=
  let (year, month, dayOfMonth) := Calendar.ofDays day
  if !fitsSigned 31 (year - 1900) then .error .beyondYears
  else if year < 1 ∨ 9999 < year then .error (.date (.year (Int.bmod year (twoTo 32))))
  else if (Calendar.ofDays (day - 1)).1 < 1 then .error (.date (.year 0))
  else
    .ok (Calendar.monthName month ++ " " ++ twoDigits dayOfMonth ++ ", " ++ clockText second)

/-- **The text of a stamp.** -/
def text (s : Stamp) : Except ShowError Text :=
  match (seconds s).floor? with
  | none => .error .beyondDoubles
  | some n =>
    if !fitsSigned 63 n then .error .beyondClock
    else dateText (n.fdiv 86400) (n.fmod 86400).toNat

end Stamp

end JsonShape
