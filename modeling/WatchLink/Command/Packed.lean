import WatchLink.Command
import WatchLink.Packing
import WatchLink.Error

/-!
# Packed commands

The packing of commands and of the phone's description. A packed command starts with its kind and
its subtype; alternatives are numbered in the order in which the lists below give them.
-/

namespace WatchLink

namespace PhoneInfo

def packing : Packing PhoneInfo :=
  (Packing.word32.pair (.pair .text .text)).map
    (fun (apiLevel, name, region) => ⟨apiLevel, name, region⟩)
    fun i => (i.apiLevel, i.name, i.region)

end PhoneInfo

namespace AuthMessage

def packing : Packing AuthMessage := .choice [
  .of (.octets 16) phoneNonce fun
    | phoneNonce nonce => some nonce
    | _ => none,
  .of (.pair (.octets 16) (.octets 32)) (fun (nonce, proof) => watchNonce nonce proof) fun
    | watchNonce nonce proof => some (nonce, proof)
    | _ => none,
  .of (.pair (.octets 32) .blob) (fun (proof, info) => phoneProof proof info) fun
    | phoneProof proof info => some (proof, info)
    | _ => none,
  .of .text userId fun
    | userId id => some id
    | _ => none]

end AuthMessage

namespace DeviceInfo

def packing : Packing DeviceInfo :=
  (Packing.text.pair (.pair .text .text)).map
    (fun (firmware, model, serialNumber) => ⟨firmware, model, serialNumber⟩)
    fun i => (i.firmware, i.model, i.serialNumber)

end DeviceInfo

namespace BatteryReading

def packing : Packing BatteryReading :=
  (Packing.octet.pair (.option .word32)).map
    (fun (level, state) => ⟨level, state⟩)
    fun b => (b.level, b.state)

end BatteryReading

namespace ClockSetting

def packing : Packing ClockSetting :=
  (Packing.word16.pair <| .pair .octet <| .pair .octet <| .pair .octet <| .pair .octet <|
    .pair .octet <| .pair .word16 <| .pair .signed <| .pair .signed <| .pair .text .flag).map
    (fun (year, month, day, hour, minute, second, millisecond, zoneOffset, dstOffset, zoneName,
      isNot24Hour) =>
      ⟨year, month, day, hour, minute, second, millisecond, zoneOffset, dstOffset, zoneName,
        isNot24Hour⟩)
    fun c =>
      (c.year, c.month, c.day, c.hour, c.minute, c.second, c.millisecond, c.zoneOffset,
        c.dstOffset, c.zoneName, c.isNot24Hour)

end ClockSetting

namespace PasswordSetting

def packing : Packing PasswordSetting :=
  (Packing.word32.pair (.option .text)).map
    (fun (state, password) => ⟨state, password⟩)
    fun p => (p.state, p.password)

end PasswordSetting

namespace DisplayItem

def packing : Packing DisplayItem :=
  (Packing.text.pair <| .pair .text <| .pair .flag <| .pair .flag .flag).map
    (fun (code, name, disabled, inMoreSection, isSettings) =>
      ⟨code, name, disabled, inMoreSection, isSettings⟩)
    fun i => (i.code, i.name, i.disabled, i.inMoreSection, i.isSettings)

end DisplayItem

namespace NotificationVibration

def packing : Packing NotificationVibration :=
  (Packing.word32.pair .word32).map
    (fun (notificationType, preset) => ⟨notificationType, preset⟩)
    fun v => (v.notificationType, v.preset)

end NotificationVibration

namespace CustomVibration

def packing : Packing CustomVibration :=
  (Packing.word32.pair .text).map
    (fun (id, name) => ⟨id, name⟩)
    fun v => (v.id, v.name)

end CustomVibration

namespace VibrationPatterns

def packing : Packing VibrationPatterns :=
  (Packing.pair (.list NotificationVibration.packing) (.list CustomVibration.packing)).map
    (fun (notificationTypes, custom) => ⟨notificationTypes, custom⟩)
    fun v => (v.notificationTypes, v.custom)

end VibrationPatterns

namespace BasicDeviceState

def packing : Packing BasicDeviceState :=
  (Packing.flag.pair <| .pair (.option .octet) <| .pair .flag .flag).map
    (fun (isCharging, batteryLevel, isUserAsleep, isWorn) =>
      ⟨isCharging, batteryLevel, isUserAsleep, isWorn⟩)
    fun s => (s.isCharging, s.batteryLevel, s.isUserAsleep, s.isWorn)

end BasicDeviceState

namespace DeviceState

def packing : Packing DeviceState :=
  (Packing.pair (.option .word32) <| .pair (.option .word32) (.option .word32)).map
    (fun (wearing, charging, sleep) => ⟨wearing, charging, sleep⟩)
    fun s => (s.wearing, s.charging, s.sleep)

end DeviceState

namespace SystemMessage

def packing : Packing SystemMessage := .choice [
  .of DeviceInfo.packing deviceInfo fun
    | deviceInfo info => some info
    | _ => none,
  .of BatteryReading.packing battery fun
    | battery reading => some reading
    | _ => none,
  .of ClockSetting.packing clock fun
    | clock setting => some setting
    | _ => none,
  .of (.pair .text .text) (fun (version, md5) => installRequest version md5) fun
    | installRequest version md5 => some (version, md5)
    | _ => none,
  .of .word32 installResponse fun
    | installResponse status => some status
    | _ => none,
  .of .text language fun
    | language code => some code
    | _ => none,
  .of PasswordSetting.packing password fun
    | password setting => some setting
    | _ => none,
  .of .word32 findDevice fun
    | findDevice value => some value
    | _ => none,
  .of (.list DisplayItem.packing) displayItems fun
    | displayItems items => some items
    | _ => none,
  .of VibrationPatterns.packing vibrationPatterns fun
    | vibrationPatterns patterns => some patterns
    | _ => none,
  .of BasicDeviceState.packing basicDeviceState fun
    | basicDeviceState state => some state
    | _ => none,
  .of DeviceState.packing deviceState fun
    | deviceState state => some state
    | _ => none]

end SystemMessage

namespace UploadMessage

def packing : Packing UploadMessage := .choice [
  .of (.pair .octet <| .pair (.octets 16) .word32)
    (fun (kind, md5, size) => request kind md5 size) fun
    | request kind md5 size => some (kind, md5, size)
    | _ => none,
  .of (.pair .word32 .word32) (fun (status, chunkSize) => ack status chunkSize) fun
    | ack status chunkSize => some (status, chunkSize)
    | _ => none]

end UploadMessage

namespace Body

def packing : Packing Body := .choice [
  .of .nothing (fun _ => empty) fun
    | empty => some ()
    | _ => none,
  .of .word32 status fun
    | status value => some value
    | _ => none,
  .of AuthMessage.packing auth fun
    | auth message => some message
    | _ => none,
  .of SystemMessage.packing system fun
    | system message => some message
    | _ => none,
  .of UploadMessage.packing upload fun
    | upload message => some message
    | _ => none,
  .of .blob raw fun
    | raw bytes => some bytes
    | _ => none]

end Body

namespace Command

def packing : Packing Command :=
  (Packing.octet.pair <| .pair .octet Body.packing).map
    (fun (kind, subtype, body) => ⟨kind, subtype, body⟩)
    fun c => (c.kind, c.subtype, c.body)

def toBytes (command : Command) : Bytes := packing.write command

/-- The command at the start of the bytes. What follows it is ignored. -/
def ofBytes (bytes : Bytes) : Except LinkError Command :=
  match packing.value? bytes with
  | some command => .ok command
  | none => .error .codec

end Command

end WatchLink
