/-!
# Errors

Each part of the library names its causes of failure in a type of its own; `Error` joins them for
the operations that cross parts. The wording of a cause is in its `message` and nowhere else.
-/

namespace WatchLink

/-- Why bytes are not a frame. -/
inductive FrameError where
  /-- More bytes may still make it one. -/
  | incomplete
  /-- No further byte can. -/
  | malformed
  deriving DecidableEq, Repr

namespace FrameError

def message : FrameError → String
  | incomplete => "incomplete frame"
  | malformed => "malformed frame"

end FrameError

/-- Why a payload was not sealed or not opened. -/
inductive CipherError where
  | noSessionKeys
  | truncated
  | encryptFailed
  | decryptFailed
  deriving DecidableEq, Repr

namespace CipherError

def message : CipherError → String
  | noSessionKeys => "session keys not established"
  | truncated => "encrypted payload truncated"
  | encryptFailed => "encryption failed"
  | decryptFailed => "decryption failed"

end CipherError

/-- Why the connection could not do what was asked. -/
inductive LinkError where
  /-- No known service was discovered. -/
  | unknownService
  /-- A known service was discovered without all its characteristics. -/
  | resourceIncomplete
  | authenticationFailed
  | unknownCommand (kind subtype : UInt8)
  | uploadInProgress
  | uploadFailed
  /-- A command could not be encoded or decoded. -/
  | codec
  /-- The radio took no transaction. -/
  | radio
  | notConnected
  | unsupported
  deriving DecidableEq, Repr

namespace LinkError

def message : LinkError → String
  | unknownService => "no matching service template"
  | resourceIncomplete => "service resources incomplete"
  | authenticationFailed => "authentication failed"
  | unknownCommand kind subtype => s!"unknown command {kind}/{subtype}"
  | uploadInProgress => "upload already in progress"
  | uploadFailed => "upload failed"
  | codec => "command codec error"
  | radio => "radio rejected transaction"
  | notConnected => "not connected"
  | unsupported => "not supported by this model"

end LinkError

/-- Why a file is no image that can be installed. -/
inductive FirmwareError where
  | unknownFormat
  | notFirmware
  | empty
  deriving DecidableEq, Repr

namespace FirmwareError

def message : FirmwareError → String
  | unknownFormat => "unrecognised image header"
  | notFirmware => "image is not a firmware"
  | empty => "image is empty"

end FirmwareError

/-- Why a configuration is refused. -/
inductive ConfigError where
  | authKeyLength
  | authKeyDigits
  | mtuTooSmall
  | chunkTooSmall
  deriving DecidableEq, Repr

namespace ConfigError

def message : ConfigError → String
  | authKeyLength => "auth key must be 32 hex characters"
  | authKeyDigits => "auth key is not valid hex"
  | mtuTooSmall => "mtu_request below the BLE minimum of 23"
  | chunkTooSmall => "stream_chunk_size too small"

end ConfigError

/-- A failure of any part. -/
inductive Error where
  | frame (cause : FrameError)
  | cipher (cause : CipherError)
  | link (cause : LinkError)
  | firmware (cause : FirmwareError)
  | config (cause : ConfigError)
  deriving DecidableEq, Repr

namespace Error

/-- The part that failed, then its own wording. -/
def message : Error → String
  | frame cause => "frame: " ++ cause.message
  | cipher cause => "cipher: " ++ cause.message
  | link cause => "link: " ++ cause.message
  | firmware cause => "firmware: " ++ cause.message
  | config cause => "config: " ++ cause.message

end Error

end WatchLink
