import WatchLink.Capabilities
import WatchLink.Config
import WatchLink.Device.Menu
import WatchLink.Firmware
import WatchLink.Service

/-!
# The device service

Everything about the watch itself: its version, battery and status, the settings it keeps, and the
installation of firmware. It is the one service that is always there.

An installation is asked for, agreed to or refused by the watch, and then uploaded; whether it is
under way is part of the service's state, with the image it is about.
-/

namespace WatchLink

/-- Where an installation stands. -/
inductive InstallState where
  | idle
  | requested (image : FirmwareImage)
  | uploading (image : FirmwareImage)
  deriving DecidableEq, Repr

structure DeviceService where
  capabilities : Capabilities
  /-- The host's locale, resolved. -/
  locale : String
  messages : Messages
  battery : BatteryState := .unknown
  wearing : WearingState := .unknown
  sleep : SleepState := .unknown
  install : InstallState := .idle
  deriving DecidableEq, Repr

namespace DeviceService

/-! ## Subtypes -/

def batterySubtype : UInt8 := 1
def deviceInfoSubtype : UInt8 := 2
def clockSubtype : UInt8 := 3
def installSubtype : UInt8 := 5
def languageSubtype : UInt8 := 6
def passwordGetSubtype : UInt8 := 9
def findPhoneSubtype : UInt8 := 17
def findWatchSubtype : UInt8 := 18
def passwordSetSubtype : UInt8 := 21
def menuGetSubtype : UInt8 := 29
def menuSetSubtype : UInt8 := 30
def vibrationGetSubtype : UInt8 := 46
def vibrationSetSubtype : UInt8 := 47
def vibrationDeleteSubtype : UInt8 := 61
def basicStateSubtype : UInt8 := 78
def deviceStateSubtype : UInt8 := 79

/-- Answers that only confirm and need no reaction. -/
def confirmations : List UInt8 :=
  [clockSubtype, languageSubtype, findWatchSubtype, passwordSetSubtype, menuSetSubtype,
   vibrationSetSubtype, vibrationDeleteSubtype]

/-! ## Preference keys -/

def languageKey : String := "language"
def timeFormatKey : String := "timeformat"
def passwordEnabledKey : String := "password_enabled"
def passwordKey : String := "password"
def menuKey : String := "display_items_sortable"
def menuCodesKey : String := "display_items_sortable_possible_values"
def menuLabelsKey : String := "display_items_sortable_possible_value_labels"
def menuSettingsKey : String := "settings_display_item_code"
def vibrationProfileKey (type : String) : String := "vibration_profile_" ++ type
def vibrationTypesKey : String := "vibration_pattern_notification_types"
def vibrationIdsKey : String := "vibration_pattern_ids"
def vibrationNamesKey : String := "vibration_pattern_names"

/-- The language that follows the host's locale. -/
def automaticLanguage : String := "auto"

/-- The time format that has two halves to a day. -/
def twelveHourFormat : String := "am/pm"

/-- The kinds of notification that vibrate, numbered from one. -/
def vibrationTypes : List String :=
  ["incoming_call", "event_reminder", "alarm", "app_alerts", "idle_alerts", "incoming_sms",
   "goal_notification", "schedule"]

/-! ## State -/

/-- The service of a connection with these settings, to a watch that can do this. -/
def ofConfig (capabilities : Capabilities) (config : LinkConfig) : DeviceService where
  capabilities := capabilities
  locale := config.resolvedLocale
  messages := config.messages

/-- Nothing known about the watch's status. -/
def resetStatus (s : DeviceService) : DeviceService :=
  { s with battery := .unknown, wearing := .unknown, sleep := .unknown }

/-- The connection is over: nothing known, nothing being installed. -/
def disconnect (s : DeviceService) : DeviceService := { s.resetStatus with install := .idle }

def message (subtype : UInt8) (message : SystemMessage) : Command :=
  ⟨Command.systemKind, subtype, .system message⟩

def request (subtype : UInt8) : Command := .request Command.systemKind subtype

/-- What is asked of every watch after authentication. The battery's state is asked for because
some models never push theirs. -/
def greeting : Outbox where
  commands :=
    [("get device info", request deviceInfoSubtype),
     ("get device status", request basicStateSubtype),
     ("get battery state", request batterySubtype),
     ("get password", request passwordGetSubtype),
     ("get display items", request menuGetSubtype),
     ("get vibration patterns", request vibrationGetSubtype)]

/-- Ask for the battery's level. -/
def requestBattery : Outbox := .ofCommand "request battery state" (request batterySubtype)

/-! ## What the host asks for -/

/-- Ask the watch to take an image. -/
def requestInstall (s : DeviceService) (image : FirmwareImage) :
    Except Error (DeviceService × Outbox) :=
  if image.isFirmware then
    match s.install with
    | .idle =>
      .ok ({ s with install := .requested image },
        .ofCommand s!"install firmware {image.version}"
          (message installSubtype (.installRequest image.version image.md5Hex)))
    | _ => .error (.link .uploadInProgress)
  else .error (.firmware .notFirmware)

/-- How far the upload of an image has come, for the radio to show. -/
def progress (s : DeviceService) (percent : UInt8) : RadioOp :=
  .progress s.messages.updateInProgress percent

/-- The upload of an image has ended. -/
def finishInstall (s : DeviceService) (success : Bool) : DeviceService × Outbox :=
  let text := if success then s.messages.updateComplete else s.messages.writeFailed
  ({ s with install := .idle }, { events := [.installStatus text success, .busy none] })

def setLanguage (s : DeviceService) (host : HostView) : Outbox :=
  let language := (host.preferences.get? languageKey).getD automaticLanguage
  let locale := if language = automaticLanguage then s.locale else language
  .ofCommand "set language" (message languageSubtype (.language (Text.lower locale)))

/-- Seconds in quarters of an hour, toward zero, in eight bits. -/
def quarterHours (seconds : Int) : Int8 := Int8.ofInt ((seconds.tdiv 60).tdiv 15)

/-- A local time as the watch is told it. -/
def clockSetting (now : LocalTime) (twelveHours : Bool) : ClockSetting where
  year := now.year
  month := now.month
  day := now.day
  hour := now.hour
  minute := now.minute
  second := now.second
  millisecond := now.millisecond
  zoneOffset := quarterHours now.zoneOffset
  dstOffset := quarterHours now.dstOffset
  zoneName := now.zoneName
  isNot24Hour := twelveHours

/-- Set the watch's clock. -/
def setCurrentTime (host : HostView) : Outbox :=
  let twelveHours := host.preferences.get? timeFormatKey = some twelveHourFormat
  .ofCommand "set time" (message clockSubtype (.clock (clockSetting host.now twelveHours)))

/-- Set the watch's password, unless there is none. -/
def setPassword (host : HostView) : Outbox :=
  let enabled := host.preferences.flag passwordEnabledKey false
  let password := (host.preferences.get? passwordKey).getD ""
  if password = "" then {}
  else
    .ofCommand "set password" (message passwordSetSubtype
      (.password ⟨if enabled then 2 else 1, some password⟩))

/-- The menu as the host's preferences have it. -/
def menuView (preferences : Preferences) : MenuView where
  codes := preferences.list menuCodesKey
  labels := preferences.list menuLabelsKey
  enabled := preferences.list menuKey
  settingsCode := preferences.get? menuSettingsKey

/-- Set the watch's menu, unless it cannot be rebuilt. -/
def setMenu (host : HostView) : Outbox :=
  match (menuView host.preferences).items with
  | .ok items => .ofCommand "set display items" (message menuSetSubtype (.displayItems items))
  | .error _ => {}

/-- Set how one kind of notification vibrates. -/
def setVibration (type : String) (preset : UInt32) : Except LinkError Outbox :=
  match vibrationTypes.idxOf? type with
  | some index =>
    .ok (.ofCommand s!"set vibration {type}" (message vibrationSetSubtype
      (.vibrationPatterns ⟨[⟨UInt32.ofNat (index + 1), preset⟩], []⟩)))
  | none => .error .unsupported

/-- The phone was found. -/
def findPhoneStop : Outbox := .ofCommand "find phone stop" (message findPhoneSubtype (.findDevice 1))

/-- Make the watch ring, or stop. -/
def findWatch (s : DeviceService) (start : Bool) : Except LinkError Outbox :=
  if s.capabilities.supportsFindDevice then
    .ok (.ofCommand s!"find watch {start}"
      (message findWatchSubtype (.findDevice (if start then 0 else 1))))
  else .error .unsupported

/-- A preference has changed; whether it is one the watch is told about. -/
def configure (s : DeviceService) (host : HostView) (key : String) : Outbox × Bool :=
  if key = languageKey then (s.setLanguage host, true)
  else if key = timeFormatKey then (setCurrentTime host, true)
  else if key = passwordEnabledKey ∨ key = passwordKey then (setPassword host, true)
  else if key = menuKey then (setMenu host, true)
  else ({}, false)

/-! ## What the watch says -/

def reportWearing (s : DeviceService) (wearing : WearingState) : DeviceService × Outbox :=
  ({ s with wearing := wearing },
   if s.wearing.isChange wearing then .ofEvent (.wearing wearing) else {})

def reportSleep (s : DeviceService) (sleep : SleepState) : DeviceService × Outbox :=
  ({ s with sleep := sleep },
   if s.sleep.isChange sleep then .ofEvent (.sleep sleep) else {})

/-- The charger's state is reported, as the watch numbers it. -/
def reportCharger (s : DeviceService) (raw : Option UInt32) : DeviceService :=
  match raw with
  | some raw => { s with battery := (BatteryState.ofRaw? raw).getD .unknown }
  | none => s

def handleDeviceInfo (info : DeviceInfo) : Outbox where
  events := [.versionInfo info.firmware info.model, .deviceInfo "serial_number" info.serialNumber]

def handleBattery (s : DeviceService) (reading : BatteryReading) : DeviceService × Outbox :=
  let s := s.reportCharger reading.state
  (s, .ofEvent (.battery (some reading.level) s.battery))

def handleBasicState (s : DeviceService) (state : BasicDeviceState) : DeviceService × Outbox :=
  let s := { s with battery := if state.isCharging then .charging else .normal }
  let level := match state.batteryLevel with
    | some level => .ofEvent (.battery (some level) s.battery)
    | none => requestBattery
  let (s, sleep) := s.reportSleep (if state.isUserAsleep then .asleep else .awake)
  let (s, wearing) := s.reportWearing (if state.isWorn then .worn else .notWorn)
  (s, level ++ sleep ++ wearing)

def handleDeviceState (s : DeviceService) (state : DeviceState) : DeviceService × Outbox :=
  let (s, wearing) := match state.wearing.bind WearingState.ofRaw? with
    | some wearing => s.reportWearing wearing
    | none => (s, {})
  let s := s.reportCharger state.charging
  let (s, sleep) := match state.sleep.bind SleepState.ofRaw? with
    | some sleep => s.reportSleep sleep
    | none => (s, {})
  (s, wearing ++ sleep ++ requestBattery)

/-- The status an answer to an installation request carries. -/
def installStatus? : Body → Option UInt32
  | .system (.installResponse status) => some status
  | .status status => some status
  | _ => none

/-- The watch agrees to an installation or refuses it. -/
def handleInstall (s : DeviceService) (body : Body) : DeviceService × Outbox :=
  match installStatus? body, s.install with
  | some status, .requested image =>
    if status = 0 then
      ({ s with install := .uploading image },
       { events := [.busy (some s.messages.updatingFirmware)]
         upload := some ⟨Upload.firmwareKind, image.bytes, .deviceService⟩ })
    else ({ s with install := .idle }, {})
  | _, _ => (s, {})

def handlePassword (setting : PasswordSetting) : Outbox :=
  .ofEvent (.updatePreferences
    ((passwordEnabledKey, .flag (setting.state = 2)) ::
      match setting.password with
      | some password => [(passwordKey, .text password)]
      | none => []))

def handleMenu (s : DeviceService) (items : List DisplayItem) : Outbox :=
  let view := MenuView.ofItems items s.messages.more
  .ofEvent (.updatePreferences
    [(menuCodesKey, .text (Text.joined view.codes)),
     (menuLabelsKey, .text (Text.joined view.labels)),
     (menuSettingsKey, match view.settingsCode with
       | some code => .text code
       | none => .unset),
     (menuKey, .text (Text.joined view.enabled))])

/-- The kind of notification of a number, from one on. -/
def vibrationType? (number : UInt32) : Option String :=
  if number = 0 then none else vibrationTypes[number.toNat - 1]?

/-- The names of a list, each once, where it first stands. -/
def firstOccurrences (names : List String) : List String :=
  names.foldl (fun seen name => if name ∈ seen then seen else seen ++ [name]) []

def handleVibration (patterns : VibrationPatterns) : Outbox :=
  let known := patterns.notificationTypes.filterMap fun entry =>
    (vibrationType? entry.notificationType).map fun type => (type, entry.preset)
  .ofEvent (.updatePreferences
    (known.map (fun (type, preset) => (vibrationProfileKey type, .text (toString preset))) ++
      [(vibrationTypesKey, .list (firstOccurrences (known.map Prod.fst))),
       (vibrationIdsKey, .text (Text.joined (patterns.custom.map fun p => toString p.id))),
       (vibrationNamesKey, .text (Text.joined (patterns.custom.map fun p =>
         Text.withoutCommas p.name)))]))

/-- The watch starts or stops looking for the phone. A message without a value starts. -/
def handleFindPhone (body : Body) : Outbox :=
  let value := match body with
    | .system (.findDevice value) => value
    | _ => 0
  .ofEvent (.findPhone (value = 0))

/-- The service after a command from the watch. A reply without the body it should have is passed
over, except that a missing device state has the battery asked for instead. -/
def handle (s : DeviceService) (command : Command) :
    DeviceService × Outbox × Except LinkError Unit :=
  let done := fun (answer : DeviceService × Outbox) => (answer.1, answer.2, Except.ok ())
  let subtype := command.subtype
  if subtype = deviceInfoSubtype then
    match command.body with
    | .system (.deviceInfo info) => done (s, handleDeviceInfo info)
    | _ => done (s, {})
  else if subtype = batterySubtype then
    match command.body with
    | .system (.battery reading) => done (s.handleBattery reading)
    | _ => done (s, {})
  else if subtype = installSubtype then done (s.handleInstall command.body)
  else if subtype = passwordGetSubtype then
    match command.body with
    | .system (.password setting) => done (s, handlePassword setting)
    | _ => done (s, {})
  else if subtype = findPhoneSubtype then done (s, handleFindPhone command.body)
  else if subtype = menuGetSubtype then
    match command.body with
    | .system (.displayItems items) => done (s, s.handleMenu items)
    | _ => done (s, {})
  else if subtype = vibrationGetSubtype then
    match command.body with
    | .system (.vibrationPatterns patterns) => done (s, handleVibration patterns)
    | _ => done (s, {})
  else if subtype = basicStateSubtype then
    match command.body with
    | .system (.basicDeviceState state) => done (s.handleBasicState state)
    | _ => done (s, requestBattery)
  else if subtype = deviceStateSubtype then
    match command.body with
    | .system (.deviceState state) => done (s.handleDeviceState state)
    | _ => done (s, requestBattery)
  else if subtype ∈ confirmations then done (s, {})
  else (s, {}, .error (.unknownCommand command.kind subtype))

instance : Service DeviceService where
  commandType _ := Command.systemKind
  onAuthenticated s _ := (s, greeting)
  onCommand s _ command := s.handle command
  onConfiguration s host key :=
    let (out, taken) := s.configure host key
    (s, out, taken)
  onDisconnect := disconnect

end DeviceService

end WatchLink
