import WatchLink.Digest.Md5
import WatchLink.Error
import WatchLink.Hex
import WatchLink.Upload

/-!
# Files for the watch

Firmware, watch faces and positioning data are told apart by how they begin. Nothing behind the
beginning is looked at: the watch checks a file itself.
-/

namespace WatchLink

inductive FileKind where
  | firmware
  | watchface
  | positioning
  deriving DecidableEq, Repr

namespace FileKind

/-- How firmware goes on after its first three octets. -/
def firmwareMark : Bytes := [0x20, 0x99, 0x12, 0x01, 0x08]

/-- How a watch face begins. -/
def watchfaceMark : Bytes := "UIHH".toUTF8.toList

/-- How positioning data begins. -/
def positioningMark : Bytes :=
  [0x73, 0x75, 0x68, 0xD0, 0x70, 0x73, 0xBB, 0x5A, 0x3E, 0xC3, 0xD3, 0x09, 0x9E, 0x1D, 0xD3, 0xC9]

/-- What a file is, if it is known. -/
def detect? (file : Bytes) : Option FileKind :=
  if (file.drop 3).take 5 = firmwareMark then some firmware
  else if file.take 4 = watchfaceMark ∧ (file[4]? = some 1 ∨ file[4]? = some 2) then some watchface
  else if file.take 16 = positioningMark then some positioning
  else none

/-- The kind a file is uploaded under, if it can be. -/
def uploadKind? : FileKind → Option UInt8
  | firmware => some Upload.firmwareKind
  | watchface => some Upload.watchfaceKind
  | positioning => none

/-- The kind's name in reports. -/
def name : FileKind → String
  | firmware => "Firmware"
  | watchface => "Watchface"
  | positioning => "Gps"

end FileKind

/-- A file of a known kind, with the version the user calls it. -/
structure FirmwareImage where
  kind : FileKind
  version : String
  bytes : Bytes
  deriving DecidableEq, Repr

namespace FirmwareImage

/-- The image in a file. -/
def ofBytes (bytes : Bytes) (version : String) : Except FirmwareError FirmwareImage :=
  if bytes = [] then .error .empty
  else
    match FileKind.detect? bytes with
    | some kind => .ok ⟨kind, version, bytes⟩
    | none => .error .unknownFormat

def isFirmware (image : FirmwareImage) : Bool := image.kind = .firmware

/-- The digest an installation is announced with. -/
def md5Hex (image : FirmwareImage) : String := Hex.encode (Digest.Md5.digest image.bytes).toList

end FirmwareImage

end WatchLink
