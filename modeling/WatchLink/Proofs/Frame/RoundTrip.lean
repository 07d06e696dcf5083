import WatchLink.Proofs.Frame.Reading

/-!
# Frames there and back

Writing and reading a frame undo each other up to what octets cannot say. A frame whose channel and
data type have octets of their own is read as it was written, with the payload as it travelled: the
payload itself, or the packet counter and what was sealed under it. And octets from which a frame is
read are written again as they were, but for a channel that used the high bits and for flags that
mean nothing: `normalized` is what becomes of those.

Only a sealed frame uses a packet counter up, and it does so by one.
-/

namespace WatchLink.Frame

/-! ## Single octets -/

/-- What holds of all 256 of them holds of an octet. -/
theorem forall_octet {P : UInt8 → Prop} (h : ∀ n < 256, P (UInt8.ofNat n)) (octet : UInt8) :
    P octet := by
  have hoctet := h octet.toNat octet.toNat_lt
  rwa [UInt8.ofNat_toNat] at hoctet

/-- A channel octet that uses the high bits is written as the highest id. -/
theorem id_channelOfOctet :
    ∀ octet, (channelOfOctet octet).id &&& 0x0F = if 16 ≤ octet then 0x0F else octet :=
  forall_octet (by decide +kernel)

/-- Of a flags octet the two flags are left. -/
theorem flagBits_octet : ∀ octet : UInt8,
    (if octet &&& flagBit ≠ 0 then flagBit else 0) |||
      (if octet &&& responseBit ≠ 0 then responseBit else 0) = octet &&& 0xC0 :=
  forall_octet (by decide +kernel)

theorem ofId_id_ofId :
    ∀ id : UInt8, id < 16 → Channel.ofId ((Channel.ofId id).id &&& 0x0F) = .ofId id :=
  forall_octet (by decide +kernel)

/-! ## Writing, then reading -/

/-- A frame whose channel and data type have octets of their own. -/
structure Named (frame : Frame) : Prop where
  channel : ∃ id < 16, frame.channel = .ofId id
  dataType : ∃ id, frame.dataType = .ofId id

theorem Named.received_eq {frame : Frame} (h : frame.Named) : frame.received = frame := by
  obtain ⟨⟨channel, hlow, hchannel⟩, ⟨dataType, hdataType⟩⟩ := h
  rw [received, hchannel, hdataType, ofId_id_ofId channel hlow, DataType.id_ofId, ← hchannel,
    ← hdataType]

/-- What travels as the payload of a frame, and the packet counter to go on from. -/
inductive Carries (frame : Frame) (cipher : PacketCipher) (counter : UInt16) :
    Bytes → UInt16 → Prop
  | clear (unsealed : frame.dataType ≠ .encrypted) :
      Carries frame cipher counter frame.payload counter
  | sealed (encrypted : frame.dataType = .encrypted) {text : Bytes}
      (sealed : cipher.sealed (counter + 1) frame.payload = .ok text) :
      Carries frame cipher counter (Bytes.le16 (counter + 1) ++ text) (counter + 1)

/-- What is written is the octets of the frame with the payload that travels. -/
theorem carries_of_encode {frame : Frame} {cipher : PacketCipher} {counter next : UInt16}
    {bytes : Bytes} (h : frame.encode cipher counter = (next, .ok bytes)) :
    ∃ wire, frame.Carries cipher counter wire next ∧
      bytes = { frame with payload := wire }.octets := by
  unfold encode at h
  split at h
  · rename_i hencrypted
    unfold PacketCipher.sealNext at h
    cases hsealed : cipher.sealed (counter + 1) frame.payload with
    | error e =>
        rw [hsealed] at h
        cases h
    | ok text =>
        rw [hsealed] at h
        cases h
        exact ⟨_, .sealed hencrypted hsealed, rfl⟩
  · rename_i hunsealed
    cases h
    exact ⟨_, .clear hunsealed, rfl⟩

/-- A frame that cannot be written is one that cannot be sealed, and it uses no counter up. -/
theorem refused_of_encode {frame : Frame} {cipher : PacketCipher} {counter next : UInt16}
    {e : CipherError} (h : frame.encode cipher counter = (next, .error e)) :
    frame.dataType = .encrypted ∧ cipher.sealed (counter + 1) frame.payload = .error e ∧
      next = counter := by
  unfold encode at h
  split at h
  · rename_i hencrypted
    unfold PacketCipher.sealNext at h
    cases hsealed : cipher.sealed (counter + 1) frame.payload with
    | error e =>
        rw [hsealed] at h
        cases h
        exact ⟨hencrypted, rfl, rfl⟩
    | ok text =>
        rw [hsealed] at h
        cases h
  · cases h

/-- The counter goes up by one for a sealed frame and stays for any other. -/
theorem Carries.next_eq {frame : Frame} {cipher : PacketCipher} {counter next : UInt16}
    {wire : Bytes} (h : frame.Carries cipher counter wire next) :
    next = (if frame.dataType = .encrypted then counter + 1 else counter) := by
  cases h with
  | clear unsealed => rw [if_neg unsealed]
  | sealed encrypted => rw [if_pos encrypted]

/-! ## Reading, then writing -/

/-- The octets of a frame as they are written: a channel that uses the high bits is the highest
one, and only the two flags are left of the flags. -/
def normalized (octets : Bytes) : Bytes :=
  (octets.modify 3 fun id => if 16 ≤ id then 0x0F else id).modify 4 (· &&& 0xC0)

/-- Octets from which a frame is read are, normalized, the octets of that frame. -/
theorem octets_of_decode {bytes : Bytes} {frame : Frame} (h : decode bytes = .ok frame) :
    frame.octets = normalized (bytes.take (overhead + frame.payload.length)) := by
  obtain ⟨channel, flags, low, high, rest, rfl, hdeclared, hchannel, hflag, hresponse⟩ :=
    exists_of_decode h
  have hword : UInt16.ofNat (frame.payload.length + headerCounted) = Bytes.word16 low high := by
    rw [← hdeclared, UInt16.ofNat_toNat]
  have hlow : frame.channel.id &&& 0x0F = if 16 ≤ channel then 0x0F else channel := by
    rw [hchannel, id_channelOfOctet]
  have hflags : frame.flags = flags &&& 0xC0 := by
    rw [Frame.flags, hflag, hresponse, ← flagBits_octet flags]
    simp only [decide_eq_true_eq]
  have htake : (frame.payload ++ epilogue :: rest).take (frame.payload.length + 1) =
      frame.payload ++ [epilogue] := by
    rw [List.take_append, List.take_of_length_le (Nat.le_succ _), Nat.add_sub_cancel_left]
    rfl
  have hsize : overhead + frame.payload.length = frame.payload.length + 1 + 10 := by
    rw [overhead]
    omega
  rw [octets, layout, hword, Bytes.le16_word16, hlow, hflags, hsize]
  simp only [List.take_succ_cons, htake]
  rfl

/-! ## Both ways -/

/-- What is written of a frame is read as that frame with the payload that travelled, as long as
the length field can declare it; only a sealed frame uses a counter up, one that cannot be written
none. And what is read, if it is not sealed, is written again as it stood there, but for octets that
have another way to say the same. -/
theorem encode_decode_roundTrip (cipher : PacketCipher) (counter : UInt16) :
    (∀ frame : Frame, frame.Named →
      (∀ bytes next, frame.encode cipher counter = (next, .ok bytes) →
        ∃ wire, frame.Carries cipher counter wire next ∧
          bytes.length = overhead + wire.length ∧
          (wire.length ≤ maxPayload → decode bytes = .ok { frame with payload := wire }) ∧
          next = (if frame.dataType = .encrypted then counter + 1 else counter)) ∧
      (∀ e next, frame.encode cipher counter = (next, .error e) →
        frame.dataType = .encrypted ∧ cipher.sealed (counter + 1) frame.payload = .error e ∧
          next = counter)) ∧
    ∀ bytes frame, decode bytes = .ok frame → frame.dataType ≠ .encrypted →
      frame.encode cipher counter =
        (counter, .ok (normalized (bytes.take (overhead + frame.payload.length)))) := by
  refine ⟨fun frame hnamed => ⟨?_, fun e next => refused_of_encode⟩, ?_⟩
  · intro bytes next hencode
    obtain ⟨wire, hcarries, rfl⟩ := carries_of_encode hencode
    have hwire : Named { frame with payload := wire } := ⟨hnamed.channel, hnamed.dataType⟩
    refine ⟨wire, hcarries, length_octets _, ?_, hcarries.next_eq⟩
    intro hroom
    rw [decode_octets { frame with payload := wire } hroom, hwire.received_eq]
  · intro bytes frame hdecode hunsealed
    rw [encode, if_neg hunsealed, ← octets_of_decode hdecode]
    rfl

/-- A cipher that turns every bit. -/
def turning : PacketCipher where
  sealed _ plain := .ok (plain.map (· ^^^ 0xFF))
  opened payload := .ok ((payload.drop 2).map (· ^^^ 0xFF))

/-- A frame to be sealed, on a channel that has no name. -/
def unnamedFrame : Frame where
  channel := .other 6
  flag := true
  needsResponse := false
  opcode := 2
  serial := 9
  dataType := .encrypted
  payload := [1, 2]

/-- The last counter before they start over; and octets with high bits on the channel, flags that
mean nothing, and something behind the frame. -/
theorem encode_decode_roundTrip_startingOver :
    unnamedFrame.Named ∧
    unnamedFrame.encode turning 65535 =
      (0, .ok [0xBA, 0xDC, 0xFE, 0x06, 0x80, 7, 0, 2, 9, 1, 0, 0, 0xFE, 0xFD, 0xEF]) ∧
    decode [0xBA, 0xDC, 0xFE, 0x06, 0x80, 7, 0, 2, 9, 1, 0, 0, 0xFE, 0xFD, 0xEF] =
      .ok { unnamedFrame with payload := [0, 0, 0xFE, 0xFD] } ∧
    ∃ frame, decode [0xBA, 0xDC, 0xFE, 0x52, 0xCF, 4, 0, 5, 1, 7, 0xAB, 0xEF, 0x99] = .ok frame ∧
      frame.dataType ≠ .encrypted ∧
      frame.encode turning 65535 =
        (65535, .ok [0xBA, 0xDC, 0xFE, 0x0F, 0xC0, 4, 0, 5, 1, 7, 0xAB, 0xEF]) := by
  have hnamed : unnamedFrame.Named := ⟨⟨6, by decide, rfl⟩, 1, rfl⟩
  obtain ⟨hwritten, hread⟩ := encode_decode_roundTrip turning 65535
  refine ⟨hnamed, rfl, ?_, ?_⟩
  · obtain ⟨wire, hcarries, -, hback, -⟩ := (hwritten unnamedFrame hnamed).1 _ _ rfl
    cases hcarries with
    | sealed _ hsealed =>
        cases hsealed
        exact hback (by decide)
  · have hunsealed : DataType.other 7 ≠ .encrypted := by decide
    exact ⟨_, rfl, hunsealed,
      hread [0xBA, 0xDC, 0xFE, 0x52, 0xCF, 4, 0, 5, 1, 7, 0xAB, 0xEF, 0x99] _ rfl hunsealed⟩

end WatchLink.Frame
