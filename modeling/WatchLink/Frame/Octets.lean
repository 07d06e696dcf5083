import WatchLink.Frame
import WatchLink.Cipher.Packet

/-!
# The octets of a frame

Three octets of preamble, the channel, the flags, the length of the rest in two octets, opcode,
serial and data type, the payload, and one closing octet. The declared length counts the payload
and the three octets between it and the length field.

Reading tells apart what more bytes can still complete from what they cannot. Writing seals the
payload of an encrypted frame under the next packet counter; the counter to go on from is handed
back whether the frame was written or not.
-/

namespace WatchLink.Frame

/-- How every frame starts. -/
def preamble : Bytes := [0xBA, 0xDC, 0xFE]

/-- How every frame ends. -/
def epilogue : UInt8 := 0xEF

/-- Octets of a frame without payload. -/
def overhead : Nat := 11

/-- A frame is this much longer than its length field says. -/
def lengthOffset : Nat := 8

/-- Octets that the declared length counts beside the payload. -/
def headerCounted : Nat := 3

def flagBit : UInt8 := 0x80

def responseBit : UInt8 := 0x40

/-- The channel of a channel octet. One that uses the high bits stands for id 15. -/
def channelOfOctet (octet : UInt8) : Channel :=
  Channel.ofId (if octet &&& 0xF0 = 0 then octet else 0x0F)

/-- The frame at the start of the bytes. Bytes after it are not looked at. -/
def decode (bytes : Bytes) : Except FrameError Frame :=
  match bytes with
  | p0 :: p1 :: p2 :: channel :: flags :: low :: high :: opcode :: serial :: dataType ::
      first :: rest =>
    let declared := (Bytes.word16 low high).toNat
    let size := declared - headerCounted
    if [p0, p1, p2] ≠ preamble then .error .malformed
    else if declared < headerCounted then .error .malformed
    else
      match (first :: rest).drop size with
      | [] => .error .incomplete
      | last :: _ =>
        if last = epilogue then
          .ok { channel := channelOfOctet channel
                flag := flags &&& flagBit ≠ 0
                needsResponse := flags &&& responseBit ≠ 0
                opcode := opcode
                serial := serial
                dataType := DataType.ofId dataType
                payload := (first :: rest).take size }
        else .error .malformed
  | _ => .error .incomplete

def flags (frame : Frame) : UInt8 :=
  (if frame.flag then flagBit else 0) ||| (if frame.needsResponse then responseBit else 0)

/-- The octets of a frame whose payload travels as `wire`. The length field keeps sixteen bits. -/
def layout (frame : Frame) (wire : Bytes) : Bytes :=
  preamble ++ [frame.channel.id &&& 0x0F, frame.flags] ++
    Bytes.le16 (UInt16.ofNat (wire.length + headerCounted)) ++
    [frame.opcode, frame.serial, frame.dataType.id] ++ wire ++ [epilogue]

theorem length_layout (frame : Frame) (wire : Bytes) :
    (frame.layout wire).length = overhead + wire.length := by
  simp [layout, preamble, overhead]
  omega

/-- The packet counter to go on from, and the octets of a frame. -/
def encode (frame : Frame) (cipher : PacketCipher) (counter : UInt16) :
    UInt16 × Except CipherError Bytes :=
  if frame.dataType = .encrypted then
    match cipher.sealNext counter frame.payload with
    | (next, .ok wire) => (next, .ok (frame.layout wire))
    | (next, .error e) => (next, .error e)
  else (counter, .ok (frame.layout frame.payload))

end WatchLink.Frame
