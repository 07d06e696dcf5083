import WatchLink.Octets

/-!
# Commands

What phone and watch say to each other: a kind that names the part concerned, a subtype that names
the request or reply, and a body. The bodies are grouped by the part they belong to.
-/

namespace WatchLink

/-- Who the phone is, told during the encrypted handshake. -/
structure PhoneInfo where
  apiLevel : UInt32
  name : String
  region : String
  deriving DecidableEq, Repr

/-- Messages of the handshake. -/
inductive AuthMessage where
  | phoneNonce (nonce : Octets 16)
  | watchNonce (nonce : Octets 16) (proof : Octets 32)
  | phoneProof (proof : Octets 32) (sealedInfo : Bytes)
  | userId (id : String)
  deriving DecidableEq, Repr

structure DeviceInfo where
  firmware : String
  model : String
  serialNumber : String
  deriving DecidableEq, Repr

structure BatteryReading where
  level : UInt8
  /-- The charger's state, as the watch numbers it. -/
  state : Option UInt32
  deriving DecidableEq, Repr

/-- A date and time to set, offsets in quarters of an hour. -/
structure ClockSetting where
  year : UInt16
  month : UInt8
  day : UInt8
  hour : UInt8
  minute : UInt8
  second : UInt8
  millisecond : UInt16
  zoneOffset : Int8
  dstOffset : Int8
  zoneName : String
  isNot24Hour : Bool
  deriving DecidableEq, Repr

structure PasswordSetting where
  state : UInt32
  password : Option String
  deriving DecidableEq, Repr

/-- One entry of the watch's menu. -/
structure DisplayItem where
  code : String
  name : String
  disabled : Bool
  inMoreSection : Bool
  isSettings : Bool
  deriving DecidableEq, Repr

/-- Which preset a kind of notification uses. -/
structure NotificationVibration where
  notificationType : UInt32
  preset : UInt32
  deriving DecidableEq, Repr

/-- A vibration pattern of the user's own. -/
structure CustomVibration where
  id : UInt32
  name : String
  deriving DecidableEq, Repr

structure VibrationPatterns where
  notificationTypes : List NotificationVibration
  custom : List CustomVibration
  deriving DecidableEq, Repr

/-- The device state that is sent on request. -/
structure BasicDeviceState where
  isCharging : Bool
  batteryLevel : Option UInt8
  isUserAsleep : Bool
  isWorn : Bool
  deriving DecidableEq, Repr

/-- The device state that the watch sends by itself, each part only when it changed. -/
structure DeviceState where
  wearing : Option UInt32
  charging : Option UInt32
  sleep : Option UInt32
  deriving DecidableEq, Repr

/-- Messages about the device itself. -/
inductive SystemMessage where
  | deviceInfo (info : DeviceInfo)
  | battery (reading : BatteryReading)
  | clock (setting : ClockSetting)
  | installRequest (version md5 : String)
  | installResponse (status : UInt32)
  | language (code : String)
  | password (setting : PasswordSetting)
  | findDevice (value : UInt32)
  | displayItems (items : List DisplayItem)
  | vibrationPatterns (patterns : VibrationPatterns)
  | basicDeviceState (state : BasicDeviceState)
  | deviceState (state : DeviceState)
  deriving DecidableEq, Repr

inductive UploadMessage where
  | request (kind : UInt8) (md5 : Octets 16) (size : UInt32)
  | ack (status chunkSize : UInt32)
  deriving DecidableEq, Repr

/-- What a command carries. -/
inductive Body where
  | empty
  | status (status : UInt32)
  | auth (message : AuthMessage)
  | system (message : SystemMessage)
  | upload (message : UploadMessage)
  | raw (bytes : Bytes)
  deriving DecidableEq, Repr

/-- One message between phone and watch. -/
structure Command where
  kind : UInt8
  subtype : UInt8
  body : Body
  deriving DecidableEq, Repr

namespace Command

/-- A command without a body. -/
def request (kind subtype : UInt8) : Command := ⟨kind, subtype, .empty⟩

def authKind : UInt8 := 1

def systemKind : UInt8 := 2

def uploadKind : UInt8 := 22

end Command

end WatchLink
