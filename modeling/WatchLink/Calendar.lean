/-!
# Local time

A moment is a count of milliseconds since the start of 1970; what the watch is told is the date
and time of day in a zone, a fixed offset with a daylight-saving offset on top. Dates are those of
the Gregorian calendar, continued in both directions.

The date of a day goes by eras of 400 years, which all have the same number of days, with years
that begin in March, so that the day a leap year adds is its last.
-/

namespace WatchLink

/-- A date and time of day in a zone. -/
structure LocalTime where
  /-- The last sixteen bits of the year. -/
  year : UInt16
  /-- From one on. -/
  month : UInt8
  day : UInt8
  hour : UInt8
  minute : UInt8
  second : UInt8
  millisecond : UInt16
  zoneOffset : Int
  /-- The daylight-saving offset in effect, in seconds. -/
  dstOffset : Int
  zoneName : String
  deriving DecidableEq, Repr

/-- A zone with a fixed offset. -/
structure Zone where
  name : String := "UTC"
  offset : Int := 0
  dst : Int := 0
  deriving DecidableEq, Repr

namespace Calendar

structure Date where
  year : Int
  month : Nat
  day : Nat
  deriving DecidableEq, Repr

def eraDays : Int := 146097

/-- Days from the start of the era of year zero, which begins in March, to the start of 1970. -/
def epochDays : Int := 719468

/-- The date of a day counted from the start of 1970. -/
def dateOfDay (days : Int) : Date :=
  let shifted := days + epochDays
  let era := shifted.fdiv eraDays
  let dayOfEra := (shifted.fmod eraDays).toNat
  let yearOfEra := (dayOfEra - dayOfEra / 1460 + dayOfEra / 36524 - dayOfEra / 146096) / 365
  let dayOfYear := dayOfEra - (365 * yearOfEra + yearOfEra / 4 - yearOfEra / 100)
  let fromMarch := (5 * dayOfYear + 2) / 153
  let month := if fromMarch < 10 then fromMarch + 3 else fromMarch - 9
  { year := yearOfEra + era * 400 + (if month ≤ 2 then 1 else 0)
    month := month
    day := dayOfYear - (153 * fromMarch + 2) / 5 + 1 }

def dayMillis : Int := 86400000

/-- The local time of a moment, in milliseconds since the start of 1970. -/
def localTime (zone : Zone) (millis : Int) : LocalTime :=
  let shifted := millis + (zone.offset + zone.dst) * 1000
  let date := dateOfDay (shifted.fdiv dayMillis)
  let ofDay := (shifted.fmod dayMillis).toNat
  { year := UInt16.ofInt date.year
    month := UInt8.ofNat date.month
    day := UInt8.ofNat date.day
    hour := UInt8.ofNat (ofDay / 3600000)
    minute := UInt8.ofNat (ofDay / 60000 % 60)
    second := UInt8.ofNat (ofDay / 1000 % 60)
    millisecond := UInt16.ofNat (ofDay % 1000)
    zoneOffset := zone.offset
    dstOffset := zone.dst
    zoneName := zone.name }

end Calendar

end WatchLink
