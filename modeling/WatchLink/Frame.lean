import WatchLink.Octets

/-!
# Frames

What travels on a byte stream: a payload under a header that names its channel, its numbering and
whether it is sealed. The types here are the frame as the two ends talk about it; its octets are
in `WatchLink.Frame.Octets`.
-/

namespace WatchLink

/-- What a frame is about, four bits on the wire. -/
inductive Channel where
  | version
  | protoRx
  | protoTx
  | fitness
  | voice
  | massStorage
  | ota
  | other (id : UInt8)
  deriving DecidableEq, Repr

namespace Channel

/-- The four bits of a channel. -/
def id : Channel → UInt8
  | version => 0
  | protoRx => 1
  | protoTx => 2
  | fitness => 3
  | voice => 4
  | massStorage => 5
  | ota => 7
  | other id => id &&& 0x0F

/-- The channel of an id. Ids without a name keep their low four bits. -/
def ofId : UInt8 → Channel
  | 0 => version
  | 1 => protoRx
  | 2 => protoTx
  | 3 => fitness
  | 4 => voice
  | 5 => massStorage
  | 7 => ota
  | id => other (id &&& 0x0F)

/-- The channel's name in reports. -/
def name : Channel → String
  | version => "Version"
  | protoRx => "ProtoRx"
  | protoTx => "ProtoTx"
  | fitness => "Fitness"
  | voice => "Voice"
  | massStorage => "MassStorage"
  | ota => "Ota"
  | other id => s!"Other({id})"

end Channel

/-- How a frame's payload is to be read. -/
inductive DataType where
  | plain
  | encrypted
  /-- In clear, as part of authentication. -/
  | auth
  | other (id : UInt8)
  deriving DecidableEq, Repr

namespace DataType

def id : DataType → UInt8
  | plain => 0
  | encrypted => 1
  | auth => 2
  | other id => id

def ofId : UInt8 → DataType
  | 0 => plain
  | 1 => encrypted
  | 2 => auth
  | id => other id

def name : DataType → String
  | plain => "Plain"
  | encrypted => "Encrypted"
  | auth => "Auth"
  | other id => s!"Other({id})"

@[simp] theorem id_ofId (id : UInt8) : (ofId id).id = id := by
  unfold ofId
  split <;> rfl

end DataType

/-- One frame of a stream. -/
structure Frame where
  channel : Channel
  flag : Bool
  needsResponse : Bool
  opcode : UInt8
  serial : UInt8
  dataType : DataType
  payload : Bytes
  deriving DecidableEq, Repr

namespace Frame

/-- The opcode of everything that is sent. -/
def opcodeSend : UInt8 := 2

def command (serial : UInt8) (dataType : DataType) (payload : Bytes) : Frame where
  channel := .protoTx
  flag := true
  needsResponse := false
  opcode := opcodeSend
  serial := serial
  dataType := dataType
  payload := payload

end Frame

end WatchLink
