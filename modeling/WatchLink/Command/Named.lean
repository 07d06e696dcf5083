import WatchLink.Command
import WatchLink.Json.Shape

/-!
# The names of commands

The shape of a command and of everything in it: the names that parts and alternatives have in
reports and in JSON.
-/

namespace WatchLink

namespace AuthMessage

def shape : Json.Shape AuthMessage := .choice
  [.parts "PhoneNonce" (Octets.zero 16)
     [.of "nonce" (.octets 16) id fun _ nonce => nonce]
     phoneNonce fun
       | phoneNonce nonce => some nonce
       | _ => none,
   .parts "WatchNonce" (Octets.zero 16, Octets.zero 32)
     [.of "nonce" (.octets 16) Prod.fst fun p nonce => (nonce, p.2),
      .of "proof" (.octets 32) Prod.snd fun p proof => (p.1, proof)]
     (fun p => watchNonce p.1 p.2) fun
       | watchNonce nonce proof => some (nonce, proof)
       | _ => none,
   .parts "PhoneProof" (Octets.zero 32, ([] : Bytes))
     [.of "proof" (.octets 32) Prod.fst fun p proof => (proof, p.2),
      .of "sealed_info" (.list .octet) Prod.snd fun p info => (p.1, info)]
     (fun p => phoneProof p.1 p.2) fun
       | phoneProof proof info => some (proof, info)
       | _ => none,
   .holding "UserId" .text userId fun
       | userId id => some id
       | _ => none]

end AuthMessage

namespace DeviceInfo

def shape : Json.Shape DeviceInfo := .record "DeviceInfo" ⟨"", "", ""⟩
  [.of "firmware" .text firmware fun i t => { i with firmware := t },
   .of "model" .text model fun i t => { i with model := t },
   .of "serial_number" .text serialNumber fun i t => { i with serialNumber := t }]

end DeviceInfo

namespace BatteryReading

def shape : Json.Shape BatteryReading := .record "Battery" ⟨0, none⟩
  [.of "level" .octet level fun r n => { r with level := n },
   .optional (.of "state" (.option .word32) state fun r n => { r with state := n })]

end BatteryReading

namespace ClockSetting

def shape : Json.Shape ClockSetting := .record "Clock" ⟨0, 0, 0, 0, 0, 0, 0, 0, 0, "", false⟩
  [.of "year" .word16 year fun c n => { c with year := n },
   .of "month" .octet month fun c n => { c with month := n },
   .of "day" .octet day fun c n => { c with day := n },
   .of "hour" .octet hour fun c n => { c with hour := n },
   .of "minute" .octet minute fun c n => { c with minute := n },
   .of "second" .octet second fun c n => { c with second := n },
   .of "millisecond" .word16 millisecond fun c n => { c with millisecond := n },
   .of "zone_offset" .signed zoneOffset fun c n => { c with zoneOffset := n },
   .of "dst_offset" .signed dstOffset fun c n => { c with dstOffset := n },
   .of "zone_name" .text zoneName fun c t => { c with zoneName := t },
   .of "is_not_24_hour" .flag isNot24Hour fun c b => { c with isNot24Hour := b }]

end ClockSetting

namespace PasswordSetting

def shape : Json.Shape PasswordSetting := .record "Password" ⟨0, none⟩
  [.of "state" .word32 state fun s n => { s with state := n },
   .optional (.of "password" (.option .text) password fun s t => { s with password := t })]

end PasswordSetting

namespace DisplayItem

def shape : Json.Shape DisplayItem := .record "DisplayItem" ⟨"", "", false, false, false⟩
  [.of "code" .text code fun i t => { i with code := t },
   .of "name" .text name fun i t => { i with name := t },
   .of "disabled" .flag disabled fun i b => { i with disabled := b },
   .of "in_more_section" .flag inMoreSection fun i b => { i with inMoreSection := b },
   .of "is_settings" .flag isSettings fun i b => { i with isSettings := b }]

end DisplayItem

namespace VibrationPatterns

def notificationShape : Json.Shape NotificationVibration :=
  .record "VibrationNotificationType" ⟨0, 0⟩
    [.of "notification_type" .word32 (·.notificationType) fun v n => { v with notificationType := n },
     .of "preset" .word32 (·.preset) fun v n => { v with preset := n }]

def customShape : Json.Shape CustomVibration := .record "CustomVibrationPattern" ⟨0, ""⟩
  [.of "id" .word32 (·.id) fun v n => { v with id := n },
   .of "name" .text (·.name) fun v t => { v with name := t }]

def shape : Json.Shape VibrationPatterns := .record "VibrationPatterns" ⟨[], []⟩
  [.of "notification_types" (.list notificationShape) notificationTypes fun p l =>
     { p with notificationTypes := l },
   .of "custom" (.list customShape) custom fun p l => { p with custom := l }]

end VibrationPatterns

namespace BasicDeviceState

def shape : Json.Shape BasicDeviceState := .record "BasicDeviceState" ⟨false, none, false, false⟩
  [.of "is_charging" .flag isCharging fun s b => { s with isCharging := b },
   .optional (.of "battery_level" (.option .octet) batteryLevel fun s n =>
     { s with batteryLevel := n }),
   .of "is_user_asleep" .flag isUserAsleep fun s b => { s with isUserAsleep := b },
   .of "is_worn" .flag isWorn fun s b => { s with isWorn := b }]

end BasicDeviceState

namespace DeviceState

def shape : Json.Shape DeviceState := .record "DeviceState" ⟨none, none, none⟩
  [.optional (.of "wearing" (.option .word32) wearing fun s n => { s with wearing := n }),
   .optional (.of "charging" (.option .word32) charging fun s n => { s with charging := n }),
   .optional (.of "sleep" (.option .word32) sleep fun s n => { s with sleep := n })]

end DeviceState

namespace SystemMessage

def shape : Json.Shape SystemMessage := .choice
  [.holding "DeviceInfo" DeviceInfo.shape deviceInfo fun
     | deviceInfo info => some info
     | _ => none,
   .holding "Battery" BatteryReading.shape battery fun
     | battery reading => some reading
     | _ => none,
   .holding "Clock" ClockSetting.shape clock fun
     | clock setting => some setting
     | _ => none,
   .parts "FirmwareInstallRequest" ("", "")
     [.of "version" .text Prod.fst fun p t => (t, p.2),
      .of "md5" .text Prod.snd fun p t => (p.1, t)]
     (fun p => installRequest p.1 p.2) fun
       | installRequest version md5 => some (version, md5)
       | _ => none,
   .parts "FirmwareInstallResponse" 0 [.of "status" .word32 id fun _ n => n] installResponse fun
     | installResponse status => some status
     | _ => none,
   .parts "Language" "" [.of "code" .text id fun _ t => t] language fun
     | language code => some code
     | _ => none,
   .holding "Password" PasswordSetting.shape password fun
     | password setting => some setting
     | _ => none,
   .holding "FindDevice" .word32 findDevice fun
     | findDevice value => some value
     | _ => none,
   .holding "DisplayItems" (.list DisplayItem.shape) displayItems fun
     | displayItems items => some items
     | _ => none,
   .holding "VibrationPatterns" VibrationPatterns.shape vibrationPatterns fun
     | vibrationPatterns patterns => some patterns
     | _ => none,
   .holding "BasicDeviceState" BasicDeviceState.shape basicDeviceState fun
     | basicDeviceState state => some state
     | _ => none,
   .holding "DeviceState" DeviceState.shape deviceState fun
     | deviceState state => some state
     | _ => none]

end SystemMessage

namespace UploadMessage

def shape : Json.Shape UploadMessage := .choice
  [.parts "Request" ((0 : UInt8), Octets.zero 16, (0 : UInt32))
     [.of "kind" .octet (fun p => p.1) fun p n => (n, p.2),
      .of "md5" (.octets 16) (fun p => p.2.1) fun p md5 => (p.1, md5, p.2.2),
      .of "size" .word32 (fun p => p.2.2) fun p n => (p.1, p.2.1, n)]
     (fun p => request p.1 p.2.1 p.2.2) fun
       | request kind md5 size => some (kind, md5, size)
       | _ => none,
   .parts "Ack" ((0 : UInt32), (0 : UInt32))
     [.of "status" .word32 Prod.fst fun p n => (n, p.2),
      .of "chunk_size" .word32 Prod.snd fun p n => (p.1, n)]
     (fun p => ack p.1 p.2) fun
       | ack status chunkSize => some (status, chunkSize)
       | _ => none]

end UploadMessage

namespace Body

def shape : Json.Shape Body := .choice
  [.only "Empty" empty,
   .holding "Status" .word32 status fun
     | status value => some value
     | _ => none,
   .holding "Auth" AuthMessage.shape auth fun
     | auth message => some message
     | _ => none,
   .holding "System" SystemMessage.shape system fun
     | system message => some message
     | _ => none,
   .holding "Upload" UploadMessage.shape upload fun
     | upload message => some message
     | _ => none,
   .holding "Raw" (.list .octet) raw fun
     | raw bytes => some bytes
     | _ => none]

end Body

namespace Command

def shape : Json.Shape Command := .record "Command" ⟨0, 0, .empty⟩
  [.of "kind" .octet kind fun c n => { c with kind := n },
   .of "subtype" .octet subtype fun c n => { c with subtype := n },
   .of "body" Body.shape body fun c b => { c with body := b }]

end Command

end WatchLink
