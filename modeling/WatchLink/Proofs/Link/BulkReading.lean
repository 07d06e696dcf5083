import WatchLink.Link.Gatt
import WatchLink.Proofs.Cipher.Opening
import WatchLink.Proofs.Link.Writing

/-!
# What the watch reads of an upload

The other end of a link sees the operations that the radio carries out. On a stream it reads every
frame of the storage channel as an upload part; on a connection over characteristics it reads every
value that is written to the one for uploads, opened with its own keys where the layout is
encrypted. A part that a link writes is read as that part, and a command is read as none. On
characteristics the latter takes a layout whose uploads and commands go to different ones, which is
so of every layout on which acknowledgements are heard.
-/

namespace WatchLink

/-- How the other end of a link reads uploads. It goes by the layout of the link, which stays while
a connection lasts. -/
class BulkReading (L : Type) [CipherSuite] [Link L] where
  Layout : Type
  layout : L → Layout
  /-- The upload part in an operation, for the keys of the connection. -/
  part? : Layout → Option SessionKeys → RadioOp → Option Bytes
  /-- Acknowledgements of parts can come in. -/
  Hears : Layout → Prop
  /-- Parts as large as the link has them can be read. -/
  Fits : Layout → Prop
  /-- A part of this length can be read. -/
  Readable : Nat → Prop
  layout_writeCommand {link next : L} {command : Command} {cipher : Option PacketCipher}
    {op : RadioOp} (written : (Link.writeCommand link command cipher).Puts next op) :
    layout next = layout link
  layout_writeBulk {link next : L} {part : Bytes} {cipher : Option PacketCipher} {op : RadioOp}
    (written : (Link.writeBulk link part cipher).Puts next op) : layout next = layout link
  layout_receive (link : L) (endpoint : Endpoint) (data : Bytes) (cipher : Option PacketCipher) :
    layout (Link.receive link endpoint data cipher).1 = layout link
  layout_resync (link : L) : layout (Link.resync link) = layout link
  layout_setMtu (link : L) (mtu : Nat) : layout (Link.setMtu link mtu) = layout link
  layout_resetCounters (link : L) : layout (Link.resetCounters link) = layout link
  fits_bind (link : L) (discovery : Discovery) (h : Fits (layout link)) :
    Fits (layout (Link.bind link discovery).1)
  fits_teardown (link : L) (h : Fits (layout link)) : Fits (layout (Link.teardown link))
  readable_of_le {link : L} {n : Nat} (h : Fits (layout link)) (hle : n ≤ Link.maxBulk link) :
    Readable n
  part?_writeBulk {link next : L} {part : Bytes} {keys? : Option SessionKeys} {op : RadioOp}
    (readable : Readable part.length)
    (written : (Link.writeBulk link part (keys?.map SessionKeys.cipher)).Puts next op) :
    part? (layout link) keys? op = some part
  part?_writeCommand {link next : L} {command : Command} {cipher : Option PacketCipher}
    {op : RadioOp} (keys? : Option SessionKeys) (hears : Hears (layout link))
    (written : (Link.writeCommand link command cipher).Puts next op) :
    part? (layout link) keys? op = none
  part?_of_ne_write {layout : Layout} {keys? : Option SessionKeys} {op : RadioOp}
    (h : ∀ endpoint data, op ≠ .write endpoint data) : part? layout keys? op = none
  hears_of_receive {link : L} {endpoint : Endpoint} {data ack : Bytes}
    {cipher : Option PacketCipher}
    (heard : .uploadAck ack ∈ (Link.receive link endpoint data cipher).2) : Hears (layout link)

/-! ## Over a stream -/

namespace StreamLink

/-- The payload of a frame of the storage channel. -/
def part? : RadioOp → Option Bytes
  | .write .stream data =>
    match Frame.decode data with
    | .ok frame => if frame.channel = .massStorage then some frame.payload else none
    | .error _ => none
  | _ => none

end StreamLink

theorem Frame.channel_of_decode_octets {frame read : Frame} {channel : Channel}
    (hchannel : frame.channel = channel) (hid : .ofId (channel.id &&& 0x0F) = channel)
    (h : Frame.decode frame.octets = .ok read) : read.channel = channel := by
  obtain ⟨first, tail, -, hoctets⟩ := octets_append_eq_cons frame []
  rw [List.append_nil] at hoctets
  rw [hoctets, decode] at h
  split at h
  · cases h
  · split at h
    · cases h
    · split at h
      · cases h
      · split at h
        · cases h
          rw [hchannel]
          exact (channelOfOctet_low _).trans hid
        · cases h

namespace StreamLink

theorem part?_octets_of_ne {frame : Frame} (hchannel : frame.channel = .protoTx) :
    part? (.write .stream frame.octets) = none := by
  rw [part?]
  split
  · rename_i read hread
    rw [Frame.channel_of_decode_octets hchannel rfl hread]
    rfl
  · rfl

theorem part?_octets {frame : Frame} (hchannel : frame.channel = .massStorage)
    (hlen : frame.payload.length ≤ Frame.maxPayload) :
    part? (.write .stream frame.octets) = some frame.payload := by
  rw [part?, Frame.decode_octets frame hlen]
  simp only [Frame.received_channel hchannel rfl]
  rfl

theorem chunkSize_writeFrame {link next : StreamLink} {frame : Frame}
    {cipher : Option PacketCipher} {op : RadioOp}
    (written : (link.writeFrame frame cipher).Puts next op) :
    next.chunkSize = link.chunkSize := by
  rcases writeFrame_cases link frame cipher written with ⟨-, rfl, -⟩ | ⟨-, rfl, -⟩ <;> rfl

theorem chunkSize_writeBulk {link next : StreamLink} {part : Bytes} {cipher : Option PacketCipher}
    {op : RadioOp} (written : (link.writeBulk part cipher).Puts next op) :
    next.chunkSize = link.chunkSize := by
  rw [writeBulk] at written
  exact chunkSize_writeFrame written

theorem chunkSize_receive (link : StreamLink) (endpoint : Endpoint) (data : Bytes)
    (cipher : Option PacketCipher) :
    (link.receive endpoint data cipher).1.chunkSize = link.chunkSize := by
  rw [receive]
  split <;> rfl

/-- An upload part travels in clear and is read as itself. -/
theorem part?_writeBulk {link next : StreamLink} {part : Bytes} {cipher : Option PacketCipher}
    {op : RadioOp} (hlen : part.length ≤ Frame.maxPayload)
    (written : (link.writeBulk part cipher).Puts next op) : part? op = some part := by
  obtain ⟨-, rfl⟩ := written.inj (writeFrame_of_unsealed link (bulkFrame part) cipher nofun)
  exact part?_octets rfl hlen

theorem part?_writeCommand {link next : StreamLink} {command : Command}
    {cipher : Option PacketCipher} {op : RadioOp}
    (written : (link.writeCommand command cipher).Puts next op) : part? op = none := by
  rcases writeFrame_cases link _ cipher written with ⟨-, -, rfl⟩ | ⟨-, -, text, -, rfl⟩
  · exact part?_octets_of_ne rfl
  · exact part?_octets_of_ne rfl

theorem part?_of_ne_write {op : RadioOp} (h : ∀ endpoint data, op ≠ .write endpoint data) :
    part? op = none := by
  unfold part?
  split
  · exact absurd rfl (h _ _)
  · rfl

instance [CipherSuite] : BulkReading StreamLink where
  Layout := Nat
  layout := chunkSize
  part? _ _ := part?
  Hears _ := True
  Fits chunkSize := chunkSize ≤ Frame.maxPayload
  Readable length := length ≤ Frame.maxPayload
  layout_writeCommand := chunkSize_writeFrame
  layout_writeBulk := chunkSize_writeBulk
  layout_receive := chunkSize_receive
  layout_resync _ := rfl
  layout_setMtu _ _ := rfl
  layout_resetCounters _ := rfl
  fits_bind _ _ h := h
  fits_teardown _ h := h
  readable_of_le h hle := Nat.le_trans hle h
  part?_writeBulk := part?_writeBulk
  part?_writeCommand _ _ := part?_writeCommand
  part?_of_ne_write := part?_of_ne_write
  hears_of_receive _ := trivial

end StreamLink

/-! ## Over characteristics -/

namespace GattLink

/-- The characteristics in use, nothing counted. -/
def layout (link : GattLink) : Option BoundResources := link.bound.map BoundResources.resetCounters

theorem encode_cases {r next : Resource} {value text : Bytes} {cipher : Option PacketCipher}
    (h : r.encode value cipher = (next, .ok text)) :
    (r.cipherFor cipher = none ∧ next = r ∧ text = value) ∨
    ∃ c tail, r.cipherFor cipher = some c ∧ next = { r with counter := r.nextCounter } ∧
      c.sealed r.nextCounter value = .ok tail ∧ text = Bytes.le16 r.nextCounter ++ tail := by
  rw [Resource.encode] at h
  split at h
  · rename_i hnone
    cases h
    exact .inl ⟨hnone, rfl, rfl⟩
  · rename_i c hsome
    split at h
    · rename_i tail hsealed
      cases h
      exact .inr ⟨c, tail, hsome, rfl, hsealed, rfl⟩
    · cases h

/-- What was written to the characteristic is read by the other end, which holds the keys the other
way round. -/
theorem decode?_of_encode [CipherSuite] {r next : Resource} {value text : Bytes}
    {keys? : Option SessionKeys}
    (h : r.encode value (keys?.map SessionKeys.cipher) = (next, .ok text)) :
    r.decode? text (keys?.map fun keys => keys.reversed.cipher) = some value := by
  rcases encode_cases h with ⟨hclear, -, rfl⟩ | ⟨c, tail, hsome, -, hsealed, rfl⟩
  · have hclear' : r.cipherFor (keys?.map fun keys => keys.reversed.cipher) = none := by
      simp only [Resource.cipherFor] at hclear ⊢
      split at hclear
      · rw [Option.map_eq_none_iff] at hclear
        simp [hclear]
      · rename_i hplain
        rw [if_neg hplain]
    rw [Resource.decode?, hclear']
  · simp only [Resource.cipherFor] at hsome
    split at hsome
    · rename_i hencrypted
      obtain ⟨keys, rfl, rfl⟩ := Option.map_eq_some_iff.1 hsome
      simp only [Resource.decode?, Resource.cipherFor, if_pos hencrypted, Option.map_some,
        keys.opened_le16_append hsealed]
      rfl
    · cases hsome

theorem writeCommand_cases {link next : GattLink} {command : Command}
    {cipher : Option PacketCipher} {op : RadioOp}
    (h : (link.writeCommand command cipher).Puts next op) :
    ∃ b r value, link.bound = some b ∧
      b.commandWrite.encode command.toBytes cipher = (r, .ok value) ∧
      next = { link with bound := some { b with commandWrite := r } } ∧
      op = .write (.resource b.commandWrite.uuid) value := by
  cases hbound : link.bound with
  | none => exact absurd (writeCommand_of_unbound hbound command cipher) h.not_fails
  | some b =>
      cases hencode : b.commandWrite.encode command.toBytes cipher with
      | mk r value =>
          cases value with
          | ok value =>
              obtain ⟨rfl, rfl⟩ := h.inj (writeCommand_of_encode hbound hencode)
              exact ⟨b, r, value, rfl, hencode, rfl, rfl⟩
          | error e => exact absurd (writeCommand_of_refused hbound hencode) h.not_fails

theorem writeBulk_cases {link next : GattLink} {part : Bytes} {cipher : Option PacketCipher}
    {op : RadioOp} (h : (link.writeBulk part cipher).Puts next op) :
    ∃ b r value, link.bound = some b ∧ b.dataUpload.encode part cipher = (r, .ok value) ∧
      next = { link with bound := some { b with dataUpload := r } } ∧
      op = .write (.resource b.dataUpload.uuid) value := by
  cases hbound : link.bound with
  | none => exact absurd (writeBulk_of_unbound hbound part cipher) h.not_fails
  | some b =>
      cases hencode : b.dataUpload.encode part cipher with
      | mk r value =>
          cases value with
          | ok value =>
              obtain ⟨rfl, rfl⟩ := h.inj (writeBulk_of_encode hbound hencode)
              exact ⟨b, r, value, rfl, hencode, rfl, rfl⟩
          | error e => exact absurd (writeBulk_of_refused hbound hencode) h.not_fails

section

variable [CipherSuite]

/-- What was written to the characteristic for uploads, as it is or opened with the keys of the
other end. -/
def part? (layout : Option BoundResources) (keys? : Option SessionKeys) : RadioOp → Option Bytes
  | .write (.resource uuid) value =>
    match layout with
    | some b =>
      if uuid = b.dataUpload.uuid then
        b.dataUpload.decode? value (keys?.map fun keys => keys.reversed.cipher)
      else none
    | none => none
  | _ => none

omit [CipherSuite] in
theorem layout_writeCommand {link next : GattLink} {command : Command}
    {cipher : Option PacketCipher} {op : RadioOp}
    (written : (link.writeCommand command cipher).Puts next op) : next.layout = link.layout := by
  obtain ⟨b, r, value, hbound, hencode, rfl, -⟩ := writeCommand_cases written
  rw [layout, layout, hbound]
  rcases encode_cases hencode with ⟨-, rfl, -⟩ | ⟨c, tail, -, rfl, -⟩ <;> rfl

omit [CipherSuite] in
theorem layout_writeBulk {link next : GattLink} {part : Bytes} {cipher : Option PacketCipher}
    {op : RadioOp} (written : (link.writeBulk part cipher).Puts next op) :
    next.layout = link.layout := by
  obtain ⟨b, r, value, hbound, hencode, rfl, -⟩ := writeBulk_cases written
  rw [layout, layout, hbound]
  rcases encode_cases hencode with ⟨-, rfl, -⟩ | ⟨c, tail, -, rfl, -⟩ <;> rfl

omit [CipherSuite] in
theorem layout_receive (link : GattLink) (endpoint : Endpoint) (data : Bytes)
    (cipher : Option PacketCipher) :
    (link.receive endpoint data cipher).1.layout = link.layout := by
  unfold receive
  split <;> rfl

omit [CipherSuite] in
theorem layout_resetCounters (link : GattLink) : link.resetCounters.layout = link.layout := by
  rw [layout, layout, resetCounters]
  cases link.bound <;> rfl

theorem part?_writeBulk {link next : GattLink} {part : Bytes} {keys? : Option SessionKeys}
    {op : RadioOp} (written : (link.writeBulk part (keys?.map SessionKeys.cipher)).Puts next op) :
    part? link.layout keys? op = some part := by
  obtain ⟨b, r, value, hbound, hencode, -, rfl⟩ := writeBulk_cases written
  have hread := decode?_of_encode hencode
  rw [layout, hbound]
  exact (if_pos rfl).trans hread

/-- Where uploads go to a characteristic of their own, a command is no part of one. -/
theorem part?_writeCommand {link next : GattLink} {command : Command}
    {cipher : Option PacketCipher} {op : RadioOp} (keys? : Option SessionKeys)
    (hears : ∃ b, link.layout = some b ∧ b.dataUpload.uuid ≠ b.commandWrite.uuid)
    (written : (link.writeCommand command cipher).Puts next op) :
    part? link.layout keys? op = none := by
  obtain ⟨b, r, value, hbound, -, -, rfl⟩ := writeCommand_cases written
  obtain ⟨_, hlayout, hne⟩ := hears
  rw [layout, hbound] at hlayout ⊢
  cases hlayout
  exact if_neg hne.symm

theorem part?_of_ne_write {layout : Option BoundResources} {keys? : Option SessionKeys}
    {op : RadioOp} (h : ∀ endpoint data, op ≠ .write endpoint data) :
    part? layout keys? op = none := by
  unfold part?
  split
  · exact absurd rfl (h _ _)
  · rfl

omit [CipherSuite] in
/-- Acknowledgements come in on the characteristic for uploads, unless that is one for commands. -/
theorem hears_of_receive {link : GattLink} {endpoint : Endpoint} {data ack : Bytes}
    {cipher : Option PacketCipher}
    (heard : .uploadAck ack ∈ (link.receive endpoint data cipher).2) :
    ∃ b, link.layout = some b ∧ b.dataUpload.uuid ≠ b.commandWrite.uuid := by
  unfold receive at heard
  split at heard
  · rename_i uuid b hbound
    have hlayout : link.layout = some b.resetCounters := by
      rw [layout, hbound]
      rfl
    refine ⟨b.resetCounters, hlayout, ?_⟩
    simp only [Option.mem_toList] at heard
    split at heard
    · simp at heard
    · split at heard
      · simp at heard
      · rename_i hcommand
        split at heard
        · simp at heard
        · split at heard
          · rename_i hupload
            rw [hupload] at hcommand
            exact hcommand
          · cases heard
  · cases heard

instance : BulkReading GattLink where
  Layout := Option BoundResources
  layout := layout
  part? := part?
  Hears layout := ∃ b, layout = some b ∧ b.dataUpload.uuid ≠ b.commandWrite.uuid
  Fits _ := True
  Readable _ := True
  layout_writeCommand := layout_writeCommand
  layout_writeBulk := layout_writeBulk
  layout_receive := layout_receive
  layout_resync _ := rfl
  layout_setMtu _ _ := rfl
  layout_resetCounters := layout_resetCounters
  fits_bind _ _ _ := trivial
  fits_teardown _ _ := trivial
  readable_of_le _ _ := trivial
  part?_writeBulk _ := part?_writeBulk
  part?_writeCommand := part?_writeCommand
  part?_of_ne_write := part?_of_ne_write
  hears_of_receive := hears_of_receive

end

end GattLink

end WatchLink
