import WatchLink.Device.Status
import WatchLink.Preferences
import WatchLink.Transport

/-!
# Events

What the host is told: how the connection stands, what the watch reports, and how an installation
goes. `Event.logLines` is the form in which a host without a screen keeps them.
-/

namespace WatchLink

/-- Something the host is told. -/
inductive Event where
  | connectionState (state : ConnectionState)
  | authenticationFailed
  | versionInfo (firmware hardware : String)
  | deviceInfo (key value : String)
  | battery (level : Option UInt8) (state : BatteryState)
  | wearing (state : WearingState)
  | sleep (state : SleepState)
  /-- The watch looks for the phone, or has stopped. -/
  | findPhone (start : Bool)
  /-- Settings of the watch for the host to keep. -/
  | updatePreferences (updates : List (String × PreferenceValue))
  | activityData (bytes : Bytes)
  /-- What the connection is busy with, if anything. -/
  | busy (task : Option String)
  | installStatus (message : String) (success : Bool)
  deriving DecidableEq, Repr

namespace Preferences

/-- The preferences after an event: only updates change them. -/
def apply (p : Preferences) : Event → Preferences
  | .updatePreferences updates => p.update updates
  | _ => p

end Preferences

namespace Event

/-- An ordinary line of the log. -/
def info (line : String) : String := "INFO " ++ line

/-- A line of the log that asks for attention. -/
def warning (line : String) : String := "WARN " ++ line

/-- How an updated preference is logged. -/
def preferenceText : PreferenceValue → String
  | .text text => "=" ++ text
  | .flag flag => "=" ++ Preferences.flagText flag
  | .list names => "=[" ++ Text.joined names ++ "]"
  | .unset => " unset"

def logLines : Event → List String
  | connectionState state => [info s!"STATE | {state.name}"]
  | authenticationFailed => [warning "AUTH | rejected by watch"]
  | versionInfo firmware hardware => [info s!"INFO | fw={firmware} hw={hardware}"]
  | deviceInfo key value => [info s!"INFO | {key}={value}"]
  | battery (some level) state => [info s!"BATT | {level}% {state.name}"]
  | battery none state => [info s!"BATT | ?% {state.name}"]
  | wearing state => [info s!"WEAR | {state.name}"]
  | sleep state => [info s!"SLEEP | {state.name}"]
  | findPhone start => [info s!"FIND | phone start={start}"]
  | updatePreferences updates => updates.map fun (key, value) =>
      info ("PREF | " ++ key ++ preferenceText value)
  | activityData bytes => [info s!"DATA | {bytes.length} activity bytes"]
  | busy (some task) => [info s!"BUSY | {task}"]
  | busy none => [info "BUSY | idle"]
  | installStatus message true => [info s!"INSTALL | {message}"]
  | installStatus message false => [warning s!"INSTALL | {message}"]

end Event

end WatchLink
