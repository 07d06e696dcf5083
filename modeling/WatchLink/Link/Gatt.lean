import WatchLink.Command.Packed
import WatchLink.Link

/-!
# The GATT link

A connection over four characteristics of one service: commands are read from one and written to
another, activity data and upload acknowledgements arrive on the other two. Two layouts are known,
one of them encrypted, where every value that is written carries its packet counter and tag.

A characteristic counts its own packets; the one for uploads does not count and seals every part
under zero.
-/

namespace WatchLink

/-- The characteristics of a known layout. -/
structure ServiceTemplate where
  service : Uuid
  commandRead : Uuid
  commandWrite : Uuid
  activityData : Uuid
  dataUpload : Uuid
  encrypted : Bool
  deriving DecidableEq, Repr

namespace ServiceTemplate

/-- The four characteristics of a layout. -/
def resources (t : ServiceTemplate) : List Uuid :=
  [t.commandRead, t.commandWrite, t.activityData, t.dataUpload]

/-- Whether a service has all the characteristics of the layout. -/
def isComplete (t : ServiceTemplate) (service : DiscoveredService) : Bool :=
  t.resources.all service.characteristics.contains

/-- The known layouts, the encrypted one first. -/
def known : List ServiceTemplate :=
  [{ service := .ofShort 0xFE95
     commandRead := .ofShort 0x0051
     commandWrite := .ofShort 0x0052
     activityData := .ofShort 0x0053
     dataUpload := .ofShort 0x0055
     encrypted := true },
   { service := .ofShort 0xFDAB
     commandRead := .ofShort 0x0001
     commandWrite := .ofShort 0x0002
     activityData := .ofShort 0x0003
     dataUpload := .ofShort 0x0004
     encrypted := false }]

/-- How both ends make themselves known on this layout. -/
def mode (t : ServiceTemplate) : HandshakeMode := if t.encrypted then .encrypted else .clearText

end ServiceTemplate

/-- One characteristic in use. -/
structure Resource where
  uuid : Uuid
  encrypted : Bool
  /-- Whether sealing moves the counter on. -/
  increments : Bool := true
  /-- The counter of the last sealed value. -/
  counter : UInt16 := 0
  deriving DecidableEq, Repr

namespace Resource

/-- The cipher that values of this characteristic pass through. -/
def cipherFor (r : Resource) (cipher : Option PacketCipher) : Option PacketCipher :=
  if r.encrypted then cipher else none

/-- The counter the next value is sealed under. -/
def nextCounter (r : Resource) : UInt16 := if r.increments then r.counter + 1 else r.counter

/-- A value as it is written. The counter moves on if it could be sealed. -/
def encode (r : Resource) (value : Bytes) (cipher : Option PacketCipher) :
    Resource × Except LinkError Bytes :=
  match r.cipherFor cipher with
  | none => (r, .ok value)
  | some cipher =>
    match cipher.sealed r.nextCounter value with
    | .ok text => ({ r with counter := r.nextCounter }, .ok (Bytes.le16 r.nextCounter ++ text))
    | .error _ => (r, .error .codec)

/-- A value that is not written leaves its characteristic as it was. -/
theorem eq_of_encode_error {r s : Resource} {value : Bytes} {cipher : Option PacketCipher}
    {e : LinkError} (h : r.encode value cipher = (s, .error e)) : s = r := by
  unfold encode at h
  split at h
  · simp at h
  · split at h <;> simp_all

/-- A value as it was meant, if it can be opened. -/
def decode? (r : Resource) (value : Bytes) (cipher : Option PacketCipher) : Option Bytes :=
  match r.cipherFor cipher with
  | none => some value
  | some cipher => (cipher.opened value).toOption

end Resource

/-- The characteristics of a connection. -/
structure BoundResources where
  commandRead : Resource
  commandWrite : Resource
  activityData : Resource
  dataUpload : Resource
  encrypted : Bool
  deriving DecidableEq, Repr

namespace BoundResources

/-- The characteristics of a layout, nothing counted yet. -/
def ofTemplate (t : ServiceTemplate) : BoundResources where
  commandRead := { uuid := t.commandRead, encrypted := t.encrypted }
  commandWrite := { uuid := t.commandWrite, encrypted := t.encrypted }
  activityData := { uuid := t.activityData, encrypted := t.encrypted }
  dataUpload := { uuid := t.dataUpload, encrypted := t.encrypted, increments := false }
  encrypted := t.encrypted

/-- The same characteristics, nothing counted. -/
def resetCounters (b : BoundResources) : BoundResources where
  commandRead := { b.commandRead with counter := 0 }
  commandWrite := { b.commandWrite with counter := 0 }
  activityData := { b.activityData with counter := 0 }
  dataUpload := { b.dataUpload with counter := 0 }
  encrypted := b.encrypted

end BoundResources

structure GattLink where
  templates : List ServiceTemplate := ServiceTemplate.known
  /-- The size to ask for when connecting. -/
  mtuRequest : UInt16 := 247
  bound : Option BoundResources := none
  mtu : Nat := 23
  deriving DecidableEq, Repr

namespace GattLink

/-- The size a connection starts with. -/
def defaultMtu : Nat := 23

/-- Octets of a write beside its value. -/
def attOverhead : Nat := 3

/-- Octets of a sealed value beside its text. -/
def sealOverhead : Nat := 6

/-- Go through the layouts for the first whose service is complete; the flag says whether an
incomplete one was met on the way. -/
def select (discovery : Discovery) :
    List ServiceTemplate → Bool → Except LinkError ServiceTemplate
  | [], partialSeen => .error (if partialSeen then .resourceIncomplete else .unknownService)
  | t :: templates, partialSeen =>
    match discovery.service? t.service with
    | none => select discovery templates partialSeen
    | some service =>
      if t.isComplete service then .ok t else select discovery templates true

/-- Settle on the first complete layout. Whatever was bound before is not any more. -/
def bind (link : GattLink) (discovery : Discovery) :
    GattLink × Except LinkError HandshakeMode :=
  match select discovery link.templates false with
  | .ok t => ({ link with bound := some (.ofTemplate t) }, .ok t.mode)
  | .error e => ({ link with bound := none }, .error e)

/-- What the radio has to do before the first write. -/
def startup (link : GattLink) : List RadioOp :=
  [.requestMtu link.mtuRequest, .setState .initializing] ++
    match link.bound with
    | none => []
    | some b =>
      [b.commandWrite, b.commandRead, b.activityData, b.dataUpload].map fun r =>
        .subscribe (.resource r.uuid)

/-- The payload of a received value. Acknowledgements of upload parts arrive in clear. -/
def receive (link : GattLink) (endpoint : Endpoint) (data : Bytes)
    (cipher : Option PacketCipher) : GattLink × List Inbound :=
  match endpoint, link.bound with
  | .resource uuid, some b =>
    let inbound :=
      if uuid = b.commandRead.uuid then (b.commandRead.decode? data cipher).map .command
      else if uuid = b.commandWrite.uuid then (b.commandWrite.decode? data cipher).map .command
      else if uuid = b.activityData.uuid then (b.activityData.decode? data cipher).map .activity
      else if uuid = b.dataUpload.uuid then some (.uploadAck data)
      else none
    (link, inbound.toList)
  | _, _ => (link, [])

def writeCommand (link : GattLink) (command : Command) (cipher : Option PacketCipher) :
    Writing GattLink := fun transaction =>
  match link.bound with
  | none => (link, transaction, .error .notConnected)
  | some b =>
    let (r, value) := b.commandWrite.encode command.toBytes cipher
    let link := { link with bound := some { b with commandWrite := r } }
    match value with
    | .ok value => (link, transaction.write (.resource b.commandWrite.uuid) value, .ok ())
    | .error e => (link, transaction, .error e)

def writeBulk (link : GattLink) (part : Bytes) (cipher : Option PacketCipher) :
    Writing GattLink := fun transaction =>
  match link.bound with
  | none => (link, transaction, .error .notConnected)
  | some b =>
    let (r, value) := b.dataUpload.encode part cipher
    let link := { link with bound := some { b with dataUpload := r } }
    match value with
    | .ok value => (link, transaction.write (.resource b.dataUpload.uuid) value, .ok ())
    | .error e => (link, transaction, .error e)

theorem writeCommand_of_unbound {link : GattLink} (hbound : link.bound = none) (command : Command)
    (cipher : Option PacketCipher) :
    (link.writeCommand command cipher).Fails link .notConnected := by
  intro transaction
  simp only [writeCommand, hbound]

theorem writeCommand_of_encode {link : GattLink} {b : BoundResources} {r : Resource}
    {command : Command} {value : Bytes} {cipher : Option PacketCipher} (hbound : link.bound = some b)
    (h : b.commandWrite.encode command.toBytes cipher = (r, .ok value)) :
    (link.writeCommand command cipher).Puts { link with bound := some { b with commandWrite := r } }
      (.write (.resource b.commandWrite.uuid) value) := by
  intro transaction
  simp only [writeCommand, hbound, h]
  rfl

theorem writeCommand_of_refused {link : GattLink} {b : BoundResources} {r : Resource}
    {command : Command} {cipher : Option PacketCipher} {e : LinkError}
    (hbound : link.bound = some b)
    (h : b.commandWrite.encode command.toBytes cipher = (r, .error e)) :
    (link.writeCommand command cipher).Fails link e := by
  intro transaction
  obtain rfl := Resource.eq_of_encode_error h
  simp only [writeCommand, hbound, h]
  rw [← hbound]

theorem writeCommand_allOrNothing (link : GattLink) (command : Command)
    (cipher : Option PacketCipher) : (link.writeCommand command cipher).AllOrNothing link := by
  cases hbound : link.bound with
  | none => exact .fails _ (writeCommand_of_unbound hbound command cipher)
  | some b =>
    cases hencode : b.commandWrite.encode command.toBytes cipher with
    | mk r value =>
      cases value with
      | ok value => exact .puts _ _ value (writeCommand_of_encode hbound hencode)
      | error e => exact .fails e (writeCommand_of_refused hbound hencode)

theorem writeBulk_of_unbound {link : GattLink} (hbound : link.bound = none) (part : Bytes)
    (cipher : Option PacketCipher) : (link.writeBulk part cipher).Fails link .notConnected := by
  intro transaction
  simp only [writeBulk, hbound]

theorem writeBulk_of_encode {link : GattLink} {b : BoundResources} {r : Resource} {part : Bytes}
    {value : Bytes} {cipher : Option PacketCipher} (hbound : link.bound = some b)
    (h : b.dataUpload.encode part cipher = (r, .ok value)) :
    (link.writeBulk part cipher).Puts { link with bound := some { b with dataUpload := r } }
      (.write (.resource b.dataUpload.uuid) value) := by
  intro transaction
  simp only [writeBulk, hbound, h]
  rfl

theorem writeBulk_of_refused {link : GattLink} {b : BoundResources} {r : Resource}
    {part : Bytes} {cipher : Option PacketCipher} {e : LinkError} (hbound : link.bound = some b)
    (h : b.dataUpload.encode part cipher = (r, .error e)) :
    (link.writeBulk part cipher).Fails link e := by
  intro transaction
  obtain rfl := Resource.eq_of_encode_error h
  simp only [writeBulk, hbound, h]
  rw [← hbound]

theorem writeBulk_allOrNothing (link : GattLink) (part : Bytes) (cipher : Option PacketCipher) :
    (link.writeBulk part cipher).AllOrNothing link := by
  cases hbound : link.bound with
  | none => exact .fails _ (writeBulk_of_unbound hbound part cipher)
  | some b =>
    cases hencode : b.dataUpload.encode part cipher with
    | mk r value =>
      cases value with
      | ok value => exact .puts _ _ value (writeBulk_of_encode hbound hencode)
      | error e => exact .fails e (writeBulk_of_refused hbound hencode)

/-- The largest part that fits one value, room for a seal left on an encrypted layout. -/
def maxBulk (link : GattLink) : Nat :=
  let room := match link.bound with
    | some b => if b.encrypted then sealOverhead else 0
    | none => 0
  link.mtu - (attOverhead + room)

/-- Number packets from the start again. -/
def resetCounters (link : GattLink) : GattLink :=
  { link with bound := link.bound.map BoundResources.resetCounters }

instance : Link GattLink where
  tag _ := "BLE"
  bind := bind
  startup := startup
  receive := receive
  writeCommand := writeCommand
  writeBulk := writeBulk
  maxBulk := maxBulk
  setMtu link mtu := { link with mtu := mtu }
  resetCounters := resetCounters
  teardown link := { link with bound := none, mtu := defaultMtu }
  writeCommand_allOrNothing := writeCommand_allOrNothing
  writeBulk_allOrNothing := writeBulk_allOrNothing

end GattLink

end WatchLink
