/-!
# Device status

What is known about the watch's battery, and about whether it is worn and its wearer asleep. A
status is unknown until the watch reports it. Only a known status that is replaced by another one
is a change worth telling.
-/

namespace WatchLink

inductive BatteryState where
  | unknown
  | charging
  | normal
  deriving DecidableEq, Repr

inductive WearingState where
  | unknown
  | worn
  | notWorn
  deriving DecidableEq, Repr

inductive SleepState where
  | unknown
  | asleep
  | awake
  deriving DecidableEq, Repr

namespace BatteryState

/-- The state of the watch's number. -/
def ofRaw? (raw : UInt32) : Option BatteryState :=
  if raw = 1 then some charging else if raw = 2 then some normal else none

/-- The state's name in reports. -/
def name : BatteryState → String
  | unknown => "Unknown"
  | charging => "Charging"
  | normal => "Normal"

end BatteryState

namespace WearingState

/-- The state of the watch's number. -/
def ofRaw? (raw : UInt32) : Option WearingState :=
  if raw = 1 then some worn else if raw = 2 then some notWorn else none

/-- The state's name in reports. -/
def name : WearingState → String
  | unknown => "Unknown"
  | worn => "Worn"
  | notWorn => "NotWorn"

/-- Whether a report of `new` replaces a known state by another one. -/
def isChange (current new : WearingState) : Bool := current ≠ unknown && current ≠ new

end WearingState

namespace SleepState

/-- The state of the watch's number. -/
def ofRaw? (raw : UInt32) : Option SleepState :=
  if raw = 1 then some asleep else if raw = 2 then some awake else none

/-- The state's name in reports. -/
def name : SleepState → String
  | unknown => "Unknown"
  | asleep => "Asleep"
  | awake => "Awake"

/-- Whether a report of `new` replaces a known state by another one. -/
def isChange (current new : SleepState) : Bool := current ≠ unknown && current ≠ new

end SleepState

end WatchLink
