import JsonShape.Number.Numeral

/-!
# Calendar

Days of the Gregorian calendar, counted from 1970-01-01, and the refusals of dates and times that do
not exist.
-/

namespace JsonShape.Calendar

/-- Why a date or a time does not exist. -/
inductive Fault
  | year (year : Int)
  | month
  | day
  | hour
  | minute
  | second
  | offset (days : Int) (seconds : Nat)

/-- The text of an offset from universal time. -/
def offsetText (days : Int) (seconds : Nat) : Text :=
  "days=" ++ Numeral.ofInt days
    ++ (if seconds = 0 then [] else Text.ofString ", seconds=" ++ Numeral.ofNat seconds)

def Fault.message : Fault → Text
  | .year y => "year " ++ Numeral.ofInt y ++ " is out of range"
  | .month => "month must be in 1..12"
  | .day => "day is out of range for month"
  | .hour => "hour must be in 0..23"
  | .minute => "minute must be in 0..59"
  | .second => "second must be in 0..59"
  | .offset days seconds =>
    "offset must be a timedelta strictly between -timedelta(hours=24) and timedelta(hours=24), "
      ++ "not datetime.timedelta(" ++ offsetText days seconds ++ ")."

def isLeap (year : Int) : Bool := year % 4 = 0 && (year % 100 ≠ 0 || year % 400 = 0)

def monthLength (year : Int) (month : Nat) : Nat :=
  if month = 2 then (if isLeap year then 29 else 28)
  else if month = 4 ∨ month = 6 ∨ month = 9 ∨ month = 11 then 30
  else 31

/-- Refuses a date that does not exist. -/
def checkDate (year month day : Nat) : Except Fault Unit :=
  if year < 1 ∨ 9999 < year then .error (.year year)
  else if month < 1 ∨ 12 < month then .error .month
  else if day < 1 ∨ monthLength year month < day then .error .day
  else .ok ()

/-- Refuses a time of day that does not exist. -/
def checkTime (hour minute second : Nat) : Except Fault Unit :=
  if 23 < hour then .error .hour
  else if 59 < minute then .error .minute
  else if 59 < second then .error .second
  else .ok ()

/-- The year, month and day of a day.  Years are counted from March, in cycles of four hundred. -/
def ofDays (days : Int) : Int × Nat × Nat :=
  let z := days + 719468
  let era := z.fdiv 146097
  let d := (z.fmod 146097).toNat
  let y := (d - d / 1460 + d / 36524 - d / 146096) / 365
  let inYear := d - (365 * y + y / 4 - y / 100)
  let m := (5 * inYear + 2) / 153
  let day := inYear - (153 * m + 2) / 5 + 1
  let month := if m < 10 then m + 3 else m - 9
  (era * 400 + y + (if month ≤ 2 then 1 else 0), month, day)

def monthNames : List Text :=
  ["Jan", "Feb", "Mar", "Apr", "May", "Jun", "Jul", "Aug", "Sep", "Oct", "Nov", "Dec"]

/-- The three letters of a month. -/
def monthName (month : Nat) : Text := (monthNames[month - 1]?).getD []

end JsonShape.Calendar
