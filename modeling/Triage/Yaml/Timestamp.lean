import Triage.Text.Numeral
import Triage.Yaml.Fault

/-!
# Timestamps

Dates, and dates with a time of the day and maybe its distance from universal time.
`Timestamp.parse?` reads the parts as they are written, and `Timestamp.literal` checks them and
shows the result.
-/

namespace Triage.Yaml

/-- A distance from universal time: what is written is a sign with hours and minutes, or a letter
for none. -/
inductive Zone
  | universal
  | offset (isWest : Bool) (hours minutes : Nat)
  deriving DecidableEq, Repr

/-- A time of a day. -/
structure DayTime where
  hour : Nat
  minute : Nat
  second : Nat
  microsecond : Nat
  zone : Option Zone
  deriving DecidableEq, Repr

/-- A date and maybe a time, as they are written. -/
structure Timestamp where
  year : Nat
  month : Nat
  day : Nat
  /-- whether month and day are written with two digits each -/
  isPadded : Bool
  time : Option DayTime
  deriving DecidableEq, Repr

/-! ### Reading -/

/-- The number that digits of ASCII write. -/
def decimalNumber (digits : List Char) : Nat :=
  digits.foldl (fun n c => n * 10 + (c.toNat - 48)) 0

/-- Up to `most` digits at the start of a text, at least `least` of them, and what follows. -/
def digitRun? (least most : Nat) (cs : List Char) : Option (List Char × List Char) :=
  let digits := (cs.take most).takeWhile Char.isDigit
  if least ≤ digits.length then some (digits, cs.drop digits.length) else none

/-- What follows a character at the start of a text. -/
def afterChar? (c : Char) (cs : List Char) : Option (List Char) :=
  match cs with
  | d :: rest => if d = c then some rest else none
  | [] => none

/-- Whether a text is over, but for a line feed. -/
def isOver (cs : List Char) : Bool :=
  cs = [] || cs = ['\n']

/-- Whether a character is a space or a tab. -/
def isGapChar (c : Char) : Bool :=
  c = ' ' || c = '\t'

/-- Reads what stands between a date and a time. -/
def afterSeparator? (cs : List Char) : Option (List Char) :=
  match cs with
  | 'T' :: rest => some rest
  | 't' :: rest => some rest
  | c :: _ => if isGapChar c then some (cs.dropWhile isGapChar) else none
  | [] => none

/-- The millionths of a second that digits behind a point write; further digits are cut off. -/
def microseconds (digits : List Char) : Nat :=
  decimalNumber ((digits ++ List.replicate 6 '0').take 6)

/-- Reads the fraction of a second, if there is one. -/
def fraction (cs : List Char) : Nat × List Char :=
  match cs with
  | '.' :: rest => (microseconds (rest.takeWhile Char.isDigit), rest.dropWhile Char.isDigit)
  | _ => (0, cs)

/-- Reads the hours and minutes of a distance after its sign. -/
def offset? (isWest : Bool) (cs : List Char) : Option (Zone × List Char) := do
  let (hours, rest) ← digitRun? 1 2 cs
  match (afterChar? ':' rest).bind (digitRun? 2 2) with
  | some (minutes, more) =>
    return (.offset isWest (decimalNumber hours) (decimalNumber minutes), more)
  | none => return (.offset isWest (decimalNumber hours) 0, rest)

/-- Reads a zone at the end of a text, if there is one. -/
def zone? (cs : List Char) : Option (Option Zone) :=
  let found := match cs.dropWhile isGapChar with
    | 'Z' :: rest => some (Zone.universal, rest)
    | '+' :: rest => offset? false rest
    | '-' :: rest => offset? true rest
    | _ => none
  match found with
  | some (zone, rest) => if isOver rest then some (some zone) else none
  | none => if isOver cs then some none else none

/-- Reads a time at the end of a text. -/
def dayTime? (cs : List Char) : Option DayTime := do
  let (hour, rest) ← digitRun? 1 2 cs
  let (minute, rest) ← (afterChar? ':' rest).bind (digitRun? 2 2)
  let (second, rest) ← (afterChar? ':' rest).bind (digitRun? 2 2)
  let (microsecond, rest) := fraction rest
  let zone ← zone? rest
  return ⟨decimalNumber hour, decimalNumber minute, decimalNumber second, microsecond, zone⟩

namespace Timestamp

/-- Reads a date, and a time if there is one. -/
def parse? (cs : List Char) : Option Timestamp := do
  let (year, rest) ← digitRun? 4 4 cs
  let (month, rest) ← (afterChar? '-' rest).bind (digitRun? 1 2)
  let (day, rest) ← (afterChar? '-' rest).bind (digitRun? 1 2)
  let isPadded := month.length = 2 && day.length = 2
  let date := Timestamp.mk (decimalNumber year) (decimalNumber month) (decimalNumber day) isPadded
  if isOver rest then return date none
  else
    let time ← (afterSeparator? rest).bind dayTime?
    return date (some time)

/-- Whether the text of a plain scalar is taken for a timestamp. A date alone has two digits for the
month and the day. -/
def isPlain (cs : List Char) : Bool :=
  (parse? cs).any fun t => t.time.isSome || t.isPadded

end Timestamp

/-! ### Checking and showing -/

/-- The days of a month. -/
def daysIn (year month : Nat) : Nat :=
  if month = 2 then
    if year % 4 = 0 ∧ (year % 100 ≠ 0 ∨ year % 400 = 0) then 29 else 28
  else if month ∈ [4, 6, 9, 11] then 30
  else 31

/-- The first part of a date that no calendar has. -/
def dateError? (year month day : Nat) : Option DateError :=
  if year = 0 then some (.year year)
  else if month = 0 ∨ 12 < month then some .month
  else if day = 0 ∨ daysIn year month < day then some .day
  else none

/-- The first part of a time that no day has. -/
def timeError? (t : DayTime) : Option DateError :=
  if 23 < t.hour then some .hour
  else if 59 < t.minute then some .minute
  else if 59 < t.second then some .second
  else none

/-- The minutes of a distance, to the east. -/
def Zone.minutesEast : Zone → Int
  | universal => 0
  | offset isWest hours minutes =>
    let n : Int := hours * 60 + minutes
    if isWest then -n else n

/-- The minutes of a day. -/
def minutesPerDay : Nat := 1440

/-- A span of minutes as days and seconds, the seconds not negative. -/
def spanText (minutes : Int) : String :=
  let days := minutes.fdiv minutesPerDay
  let seconds := minutes.fmod minutesPerDay * 60
  let parts := (if days = 0 then [] else ["days=" ++ toString days]) ++
    (if seconds = 0 then [] else ["seconds=" ++ toString seconds])
  "datetime.timedelta(" ++ (if parts.isEmpty then "0" else ", ".intercalate parts) ++ ")"

/-- A distance that is too large. -/
def Zone.error? (z : Zone) : Option DateError :=
  if z.minutesEast.natAbs < minutesPerDay then none
  else some (.offset (spanText z.minutesEast))

/-- A zone as it is shown. -/
def Zone.literal (z : Zone) : String :=
  if z.minutesEast = 0 then "datetime.timezone.utc"
  else "datetime.timezone(" ++ spanText z.minutesEast ++ ")"

/-- The numbers of a time as they are shown: without the seconds and smaller parts that are zero. -/
def DayTime.shownParts (t : DayTime) : List Nat :=
  if t.microsecond ≠ 0 then [t.hour, t.minute, t.second, t.microsecond]
  else if t.second ≠ 0 then [t.hour, t.minute, t.second]
  else [t.hour, t.minute]

namespace Timestamp

/-- The first fault of a timestamp: of its distance from universal time, of its date, or of its
time. -/
def error? (t : Timestamp) : Option DateError :=
  let zoneError := (t.time.bind DayTime.zone).bind Zone.error?
  zoneError.or ((dateError? t.year t.month t.day).or (t.time.bind timeError?))

/-- A timestamp as it is shown. -/
def shown (t : Timestamp) : String :=
  let date := [t.year, t.month, t.day]
  match t.time with
  | none => "datetime.date(" ++ ", ".intercalate (date.map toString) ++ ")"
  | some time =>
    let numbers := (date ++ time.shownParts).map toString
    let zone := (time.zone.map fun z => "tzinfo=" ++ z.literal).toList
    "datetime.datetime(" ++ ", ".intercalate (numbers ++ zone) ++ ")"

/-- A timestamp as it is shown, if it is one. -/
def literal (t : Timestamp) : Except Fault String :=
  match t.error? with
  | some e => .error (.date e)
  | none => .ok t.shown

end Timestamp

end Triage.Yaml
