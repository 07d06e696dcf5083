import WatchLink.Frame.Octets

/-!
# Frames are read from their octets

`f.octets` are the octets of a frame whose payload travels as it is; a frame that is sealed is, on
the wire, the frame with the sealed payload. `f.received` is what the other end reads of them: the
same frame, with the channel cut to its four bits and with the data type that its octet names.
The length field has room for payloads up to `maxPayload`, and within that room a frame is read
from its octets, whatever follows them.
-/

namespace WatchLink.Frame

/-- The longest payload whose length the header can declare. -/
def maxPayload : Nat := 65532

/-- Bytes of at least a frame's overhead, taken apart. -/
theorem exists_eq_cons {bytes : Bytes} (h : overhead ≤ bytes.length) :
    ∃ p0 p1 p2 channel flags low high opcode serial dataType first rest,
      bytes = p0 :: p1 :: p2 :: channel :: flags :: low :: high :: opcode :: serial :: dataType ::
        first :: rest := by
  match bytes, h with
  | p0 :: p1 :: p2 :: channel :: flags :: low :: high :: opcode :: serial :: dataType :: first ::
      rest, _ =>
    exact ⟨p0, p1, p2, channel, flags, low, high, opcode, serial, dataType, first, rest, rfl⟩

theorem take_preamble_eq_iff (bytes : Bytes) :
    bytes.take 3 = preamble ↔ preamble <+: bytes := by
  rw [List.prefix_iff_eq_take, eq_comm]
  rfl

/-- The octets of a frame whose payload travels as it is. -/
def octets (frame : Frame) : Bytes := frame.layout frame.payload

/-- The frame that is read of a frame's octets. -/
def received (frame : Frame) : Frame :=
  { frame with
    channel := .ofId (frame.channel.id &&& 0x0F)
    dataType := .ofId frame.dataType.id }

theorem received_channel {frame : Frame} {channel : Channel} (h : frame.channel = channel)
    (hid : .ofId (channel.id &&& 0x0F) = channel) : frame.received.channel = channel := by
  rw [received, h]
  exact hid

/-- The data type of sealed frames is read as itself, and no other is read as it. -/
theorem received_dataType_eq_encrypted_iff (frame : Frame) :
    frame.received.dataType = .encrypted ↔ frame.dataType.id = 1 := by
  constructor
  · intro h
    have hid := congrArg DataType.id h
    rwa [received, DataType.id_ofId] at hid
  · intro h
    rw [received, h]
    rfl

theorem length_octets (frame : Frame) :
    frame.octets.length = overhead + frame.payload.length :=
  length_layout frame frame.payload

/-- Within its room the length field declares the payload and the three octets before it. -/
theorem toNat_declared {frame : Frame} (h : frame.payload.length ≤ maxPayload) :
    (UInt16.ofNat (frame.payload.length + headerCounted)).toNat =
      frame.payload.length + headerCounted := by
  rw [UInt16.toNat_ofNat']
  simp only [maxPayload, headerCounted] at *
  omega

/-- The octets of a frame one by one, up to the first that may belong to the payload. -/
theorem octets_append_eq_cons (frame : Frame) (rest : Bytes) :
    ∃ first tail, frame.payload ++ epilogue :: rest = first :: tail ∧
      frame.octets ++ rest = 0xBA :: 0xDC :: 0xFE ::
        (frame.channel.id &&& 0x0F) :: frame.flags ::
        UInt8.ofNat (UInt16.ofNat (frame.payload.length + headerCounted)).toNat ::
        UInt8.ofNat ((UInt16.ofNat (frame.payload.length + headerCounted)).toNat / 256) ::
        frame.opcode :: frame.serial :: frame.dataType.id :: first :: tail := by
  obtain ⟨first, tail, htail⟩ :
      ∃ first tail, frame.payload ++ epilogue :: rest = first :: tail := by
    cases frame.payload with
    | nil => exact ⟨epilogue, rest, rfl⟩
    | cons b payload => exact ⟨b, payload ++ epilogue :: rest, rfl⟩
  refine ⟨first, tail, htail, ?_⟩
  rw [octets, layout, ← htail]
  simp [preamble, Bytes.le16]

theorem channelOfOctet_low (octet : UInt8) :
    channelOfOctet (octet &&& 0x0F) = .ofId (octet &&& 0x0F) := by
  have h : octet &&& 0x0F &&& 0xF0 = 0 := by
    rw [UInt8.and_assoc]
    exact UInt8.and_zero
  rw [channelOfOctet, if_pos h]

theorem flag_flags (frame : Frame) : decide (frame.flags &&& flagBit ≠ 0) = frame.flag := by
  rw [flags]
  cases frame.flag <;> cases frame.needsResponse <;> decide

theorem needsResponse_flags (frame : Frame) :
    decide (frame.flags &&& responseBit ≠ 0) = frame.needsResponse := by
  rw [flags]
  cases frame.flag <;> cases frame.needsResponse <;> decide

/-- A frame is read from its octets, whatever follows them. -/
theorem decode_octets_append (frame : Frame) (rest : Bytes)
    (h : frame.payload.length ≤ maxPayload) :
    decode (frame.octets ++ rest) = .ok frame.received := by
  obtain ⟨first, tail, htail, hoctets⟩ := octets_append_eq_cons frame rest
  have hdrop : (first :: tail).drop frame.payload.length = epilogue :: rest := by
    rw [← htail, List.drop_left]
  have htake : (first :: tail).take frame.payload.length = frame.payload := by
    rw [← htail, List.take_left]
  have hword : (Bytes.word16
      (UInt8.ofNat (UInt16.ofNat (frame.payload.length + headerCounted)).toNat)
      (UInt8.ofNat ((UInt16.ofNat (frame.payload.length + headerCounted)).toNat / 256))).toNat =
        frame.payload.length + headerCounted := by
    rw [Bytes.word16_le16, toNat_declared h]
  rw [hoctets, decode]
  simp only [hword, Nat.add_sub_cancel, hdrop, htake, channelOfOctet_low, flag_flags,
    needsResponse_flags]
  rfl

theorem decode_octets (frame : Frame) (h : frame.payload.length ≤ maxPayload) :
    decode frame.octets = .ok frame.received := by
  have hread := decode_octets_append frame [] h
  rwa [List.append_nil] at hread

/-- A frame that is read stands at the start of the bytes, octet by octet. -/
theorem exists_of_decode {bytes : Bytes} {frame : Frame} (h : decode bytes = .ok frame) :
    ∃ channel flags low high rest,
      bytes = 0xBA :: 0xDC :: 0xFE :: channel :: flags :: low :: high :: frame.opcode ::
        frame.serial :: frame.dataType.id :: (frame.payload ++ epilogue :: rest) ∧
      (Bytes.word16 low high).toNat = frame.payload.length + headerCounted ∧
      frame.channel = channelOfOctet channel ∧
      frame.flag = decide (flags &&& flagBit ≠ 0) ∧
      frame.needsResponse = decide (flags &&& responseBit ≠ 0) := by
  unfold decode at h
  split at h
  · rename_i p0 p1 p2 channel flags low high opcode serial dataType first rest
    split at h
    · cases h
    · rename_i hpreamble
      obtain ⟨rfl, rfl, rfl⟩ : p0 = 0xBA ∧ p1 = 0xDC ∧ p2 = 0xFE := by
        simpa [preamble] using hpreamble
      simp only at h
      split at h
      · cases h
      · rename_i hcounted
        split at h
        · cases h
        · rename_i last more hdrop
          split at h
          · rename_i hlast
            cases h
            -- The closing octet stands behind the payload, so the payload is all there.
            have hsize := congrArg List.length hdrop
            simp only [List.length_drop, List.length_cons] at hsize
            refine ⟨channel, flags, low, high, more, ?_, ?_, rfl, rfl, rfl⟩
            · rw [← hlast, ← hdrop, List.take_append_drop, DataType.id_ofId]
            · rw [List.length_take, List.length_cons]
              omega
          · cases h
  · cases h

end WatchLink.Frame
