import WatchLink.Command.Packed
import WatchLink.Link
import WatchLink.Reassembler

/-!
# The stream link

A serial connection: one byte stream each way, cut into frames. Commands are sealed except for the
later part of the handshake, which carries its own protection; upload parts travel in clear. Each
frame that is written gets the next serial, each sealed one the next packet counter.
-/

namespace WatchLink

structure StreamLink where
  /-- The largest upload part. -/
  chunkSize : Nat := 2048
  reassembler : Reassembler := {}
  /-- The serial of the next frame. -/
  serial : UInt8 := 0
  /-- The counter of the last sealed frame. -/
  counter : UInt16 := 0
  deriving DecidableEq, Repr

namespace StreamLink

/-- From this subtype on, handshake commands travel as authentication data. -/
def authDataFrom : UInt8 := 17

/-- How a command's frame is protected. -/
def dataTypeOf (command : Command) : DataType :=
  if command.kind = Command.authKind ∧ authDataFrom ≤ command.subtype then .auth else .encrypted

def payload? (cipher : Option PacketCipher) (frame : Frame) : Option Bytes :=
  if frame.dataType = .encrypted then
    ((cipher.getD .refusing).opened frame.payload).toOption
  else some frame.payload

/-- What the payload of a frame is for. -/
def inbound? (channel : Channel) (payload : Bytes) : Option Inbound :=
  match channel with
  | .protoRx | .protoTx => some (.command payload)
  | .fitness => some (.activity payload)
  | .massStorage => some (.uploadAck payload)
  | _ => none

/-- The payloads that received bytes complete. Frames that cannot be opened, and channels without
a reader, leave none. -/
def receive (link : StreamLink) (endpoint : Endpoint) (data : Bytes)
    (cipher : Option PacketCipher) : StreamLink × List Inbound :=
  if endpoint = .stream then
    let (reassembler, frames) := link.reassembler.push data
    ({ link with reassembler := reassembler },
     frames.filterMap fun frame =>
       (payload? cipher frame).bind (inbound? frame.channel))
  else (link, [])

/-- The octets of a frame under the next serial. Serial and counter move on if there are any. -/
def encodeNext (link : StreamLink) (frame : Frame) (cipher : Option PacketCipher) :
    StreamLink × Except LinkError Bytes :=
  match Frame.encode { frame with serial := link.serial } (cipher.getD .refusing) link.counter with
  | (counter, .ok bytes) =>
    ({ link with serial := link.serial + 1, counter := counter }, .ok bytes)
  | (_, .error _) => (link, .error .codec)

/-- Write a frame under the next serial. -/
def writeFrame (link : StreamLink) (frame : Frame) (cipher : Option PacketCipher) :
    Writing StreamLink := fun transaction =>
  match link.encodeNext frame cipher with
  | (link, .ok bytes) => (link, transaction.write .stream bytes, .ok ())
  | (link, .error e) => (link, transaction, .error e)

theorem writeFrame_allOrNothing (link : StreamLink) (frame : Frame)
    (cipher : Option PacketCipher) : (link.writeFrame frame cipher).AllOrNothing link := by
  cases h : Frame.encode { frame with serial := link.serial } (cipher.getD .refusing)
    link.counter with
  | mk counter octets =>
    cases octets with
    | ok bytes =>
      exact .puts { link with serial := link.serial + 1, counter := counter } .stream bytes
        fun _ => by simp [writeFrame, encodeNext, h, Transaction.write]
    | error _ => exact .fails .codec fun _ => by simp [writeFrame, encodeNext, h]

def writeCommand (link : StreamLink) (command : Command) (cipher : Option PacketCipher) :
    Writing StreamLink :=
  link.writeFrame (Frame.command 0 (dataTypeOf command) command.toBytes) cipher

def bulkFrame (part : Bytes) : Frame where
  channel := .massStorage
  flag := true
  needsResponse := false
  opcode := Frame.opcodeSend
  serial := 0
  dataType := .plain
  payload := part

def writeBulk (link : StreamLink) (part : Bytes) (cipher : Option PacketCipher) :
    Writing StreamLink :=
  link.writeFrame (bulkFrame part) cipher

/-- Number frames and packets from the start again. -/
def resetCounters (link : StreamLink) : StreamLink := { link with serial := 0, counter := 0 }

/-- Give up input that is only half there. -/
def resync (link : StreamLink) : StreamLink := { link with reassembler := link.reassembler.reset }

instance : Link StreamLink where
  tag _ := "SPP"
  bind link _ := (link, .ok .encrypted)
  startup _ := [.setState .initializing]
  receive := receive
  writeCommand := writeCommand
  writeBulk := writeBulk
  maxBulk link := link.chunkSize
  resetCounters := resetCounters
  resync := resync
  teardown link := link.resync.resetCounters
  writeCommand_allOrNothing link _ cipher := link.writeFrame_allOrNothing _ cipher
  writeBulk_allOrNothing link _ cipher := link.writeFrame_allOrNothing _ cipher

end StreamLink

end WatchLink
