import WatchLink.Proofs.Session.Launching
import WatchLink.Proofs.Session.Reporting
import WatchLink.Proofs.Session.Sizing

/-!
# Which upload parts are whole frames

Over a stream an upload part is written as one frame of the storage channel, and parts are never
larger than the settings say. The settings have no upper limit, but the length field of a frame has:
it keeps sixteen bits. So a part is a whole frame just as far as the field reaches, and of a longer
one the other end reads no frame that has it.
-/

namespace WatchLink

open BulkReading Upload

/-- The bytes are one frame of the storage channel and nothing else, and the part is its payload. -/
structure WholeFrame (part bytes : Bytes) : Prop where
  read : ∃ frame, Frame.decode bytes = .ok frame ∧ frame.channel = .massStorage ∧
    frame.payload = part
  length : bytes.length = Frame.overhead + part.length

theorem Frame.length_payload_le {bytes : Bytes} {frame : Frame} (h : decode bytes = .ok frame) :
    frame.payload.length ≤ maxPayload := by
  obtain ⟨_, _, low, high, _, -, hdeclared, -⟩ := exists_of_decode h
  have hword := (Bytes.word16 low high).toNat_lt
  rw [headerCounted] at hdeclared
  rw [maxPayload]
  omega

/-- The fourth octet of a frame names its channel. -/
theorem Frame.getElem?_octets (frame : Frame) :
    frame.octets[3]? = some (frame.channel.id &&& 0x0F) := rfl

namespace StreamLink

/-- An operation that writes to the storage channel. -/
def IsBulk (op : RadioOp) (bytes : Bytes) : Prop :=
  op = .write .stream bytes ∧ bytes[3]? = some Channel.massStorage.id

theorem wholeFrame_octets_iff {frame : Frame} (channel : frame.channel = .massStorage) :
    WholeFrame frame.payload frame.octets ↔ frame.payload.length ≤ Frame.maxPayload := by
  constructor
  · rintro ⟨⟨read, hread, -, hpayload⟩, -⟩
    rw [← hpayload]
    exact Frame.length_payload_le hread
  · intro h
    exact ⟨⟨_, Frame.decode_octets frame h, Frame.received_channel channel rfl, rfl⟩,
      Frame.length_octets frame⟩

/-- A part is written as a frame, which is whole if its length can be declared. -/
theorem wholeFrame_bulkOctets_iff (serial : UInt8) (part : Bytes) :
    WholeFrame part (bulkOctets serial part) ↔ part.length ≤ Frame.maxPayload :=
  wholeFrame_octets_iff (rfl : ({ bulkFrame part with serial := serial } : Frame).channel = _)

theorem isBulk_bulkOctets (serial : UInt8) (part : Bytes) :
    IsBulk (.write .stream (bulkOctets serial part)) (bulkOctets serial part) := by
  have hchannel : Channel.massStorage.id &&& 0x0F = Channel.massStorage.id := by decide
  exact ⟨rfl, (Frame.getElem?_octets _).trans (congrArg some hchannel)⟩

/-- A command goes to its own channel. -/
theorem not_isBulk_of_writeCommand {link next : StreamLink} {command : Command}
    {cipher : Option PacketCipher} {op : RadioOp} {bytes : Bytes}
    (written : (link.writeCommand command cipher).Puts next op) : ¬ IsBulk op bytes := by
  have hother : some (Channel.protoTx.id &&& 0x0F) ≠ some Channel.massStorage.id := by decide
  rintro ⟨hop, hchannel⟩
  rcases writeFrame_cases link _ cipher written with ⟨-, -, rfl⟩ | ⟨-, -, text, -, rfl⟩
  all_goals
    cases hop
    rw [Frame.getElem?_octets] at hchannel
    exact hother hchannel

theorem wholeFrame_of_writeBulk {link next : StreamLink} {part bytes : Bytes}
    {cipher : Option PacketCipher} {op : RadioOp}
    (written : (link.writeBulk part cipher).Puts next op) (bulk : IsBulk op bytes) :
    WholeFrame part bytes ↔ part.length ≤ Frame.maxPayload := by
  obtain ⟨-, rfl⟩ := (writeBulk_eq link part cipher).inj written
  obtain ⟨⟨⟩, -⟩ := bulk
  exact wholeFrame_bulkOctets_iff link.serial part

end StreamLink

namespace Session

section

variable {S R : Type} [CipherSuite] [Service S] [Radio R] {s t : Session StreamLink S R}

/-- The bytes are what was written for a part that the upload had out on the way from one session to
another. -/
inductive Shipped (chunkSize : Nat) (s t : Session StreamLink S R) (bytes : Bytes) : Prop
  | part {u : Session StreamLink S R} {job : UploadJob} {size : Nat} {total index : UInt16}
      (before : Moves s u) (after : Moves u t)
      (out : u.upload.job = some { job with phase := .sending size total index })
      (fits : (part job.blob size total index).length ≤ chunkSize)
      (whole : WholeFrame (part job.blob size total index) bytes ↔
        (part job.blob size total index).length ≤ Frame.maxPayload)

theorem chunkSize_moves (h : Moves s t) : t.link.chunkSize = s.link.chunkSize := by
  refine h.keep (P := fun t => t.link.chunkSize = s.link.chunkSize) ?_ rfl
  intro t u move hbefore
  rcases link_move move with ⟨hlayout, -⟩ | hdown
  · exact Eq.trans hlayout hbefore
  · rw [hdown]
    exact hbefore

theorem Outgoing.shipped {op : RadioOp} {bytes : Bytes} (h : Outgoing s t op)
    (bulk : StreamLink.IsBulk op bytes) : Shipped s.link.chunkSize s t bytes := by
  cases h with
  | writeless writeless => exact absurd bulk.1 (writeless _ _)
  | command _ written => exact absurd bulk (StreamLink.not_isBulk_of_writeCommand written)
  | @part _ _ job size total index _ _ before between after room fits written out =>
      have hlength := length_part_le job.blob size total index
      rw [← chunkSize_moves before]
      exact .part (before.trans between) after out (Nat.le_trans hlength fits)
        (StreamLink.wholeFrame_of_writeBulk written bulk)

/-- Over a stream no call changes the room. -/
theorem sized_run_stream {radio : R} {config : LinkConfig} {capabilities : Capabilities}
    {link : StreamLink} {start : Session StreamLink S R}
    (hstart : ofConfig link radio config capabilities = .ok start) (calls : List (HostCall S R)) :
    (start.run calls).Sized ∧ (start.run calls).link.chunkSize = link.chunkSize := by
  have hidle : start.upload = {} ∧ start.link = link := by
    obtain ⟨secret, rfl⟩ := eq_of_ofConfig hstart
    exact ⟨rfl, rfl⟩
  have hchunk := congrArg (fun settings => settings.1.chunkSize) (settings_run start calls)
  exact ⟨sized_run hstart rfl [] (unsent_of_idle hidle.1) calls fun _ _ _ => rfl,
    hidle.2 ▸ hchunk⟩

/-- All that a call writes to the storage channel are parts of the upload. -/
theorem shipped_perform (heeded : s.Heeded) (sized : s.Sized) (call : HostCall S R) {bytes : Bytes}
    {op : RadioOp} (asked : s.asked = [])
    (mem : op ∈ (s.perform call).1.asked ++ (s.perform call).2)
    (bulk : StreamLink.IsBulk op bytes) :
    Shipped s.link.chunkSize s (s.perform call).1 bytes := by
  rcases written_perform heeded sized call asked mem with
    ⟨-, hout⟩ | writeless | ⟨_, _, written⟩
  · exact hout.shipped bulk
  · exact absurd bulk.1 (writeless _ _)
  · exact absurd bulk (StreamLink.not_isBulk_of_writeCommand written)

/-- In every run over a stream that was made as usable settings say, all that is written to the
storage channel are parts of the upload, none of them longer than the settings say; and such a write
is one whole frame with the part in it just if the part is no longer than a frame can declare. -/
theorem shipped_run {radio : R} {config : LinkConfig} {capabilities : Capabilities}
    {start : Session StreamLink S R}
    (hstart : ofConfig { chunkSize := config.streamChunkSize } radio config capabilities =
      .ok start) (calls : List (HostCall S R)) (call : HostCall S R) {op : RadioOp} {bytes : Bytes}
    (mem : op ∈ ((start.run calls).clearEffects.perform call).1.asked ++
      ((start.run calls).clearEffects.perform call).2)
    (bulk : StreamLink.IsBulk op bytes) :
    Shipped config.streamChunkSize (start.run calls).clearEffects
      ((start.run calls).clearEffects.perform call).1 bytes := by
  obtain ⟨hsized, hchunk⟩ := sized_run_stream hstart calls
  have hclear : (start.run calls).clearEffects.Sized := hsized
  have hheeded : (start.run calls).clearEffects.Heeded :=
    ((Reachable.ofConfig hstart).run calls).heeded
  have hshipped := shipped_perform hheeded hclear call rfl mem bulk
  rwa [show (start.run calls).clearEffects.link.chunkSize = config.streamChunkSize from hchunk]
    at hshipped

end

/-- The calls up to the watch's consent to a file, by a watch that knows the secret of zeros. -/
def launchOf (file : Bytes) : List (HostCall DeviceService RadioQueue) :=
  launch bareHost (.zero 16) (.zero 16) (.replicate 16 1) ⟨.firmware, "1.0", file⟩

/-- The watch asks for the first part, and takes so many octets at a time. -/
def goFor (chunk : UInt32) : HostCall DeviceService RadioQueue :=
  .receive bareHost .stream (authFrame (goAhead chunk)).octets

/-- The part of a small file that goes out when the watch asks for the first. -/
theorem shipped_run_firstPart :
    ∃ serial,
      let s := (streamStart.run (launchOf smallImage.bytes)).clearEffects
      let bytes := StreamLink.bulkOctets serial (part (blob firmwareKind smallImage.bytes) 16 3 1)
      .write .stream bytes ∈ (s.perform (goFor 20)).1.asked ++ (s.perform (goFor 20)).2 ∧
      StreamLink.IsBulk (.write .stream bytes) bytes ∧
      Shipped bareConfig.streamChunkSize s (s.perform (goFor 20)).1 bytes := by
  have hidle : streamStart.Unengaged :=
    ⟨rfl, rfl, rfl, Registry.routed_empty, rfl⟩
  have hinfo : (PhoneInfo.packing.write streamStart.handshake.phoneInfo).length <
      Cipher.Ccm.lengthLimit := by decide +kernel
  have hfirmware : smallImage.isFirmware = true := rfl
  have hsize : partSize 20 streamStart.link.chunkSize = 16 := rfl
  obtain ⟨-, serial, hasked⟩ := run_launch hidle ⟨rfl, rfl⟩ hinfo bareHost (.zero 16)
    (.replicate 16 1) hfirmware hsize (by decide) (by decide)
  rw [run_snoc] at hasked
  have hmem : .write .stream (StreamLink.bulkOctets serial
      (part (blob firmwareKind smallImage.bytes) 16 3 1)) ∈
        ((streamStart.run (launchOf smallImage.bytes)).clearEffects.perform (goFor 20)).1.asked ++
        ((streamStart.run (launchOf smallImage.bytes)).clearEffects.perform (goFor 20)).2 :=
    List.mem_append_left _ (List.mem_of_mem_head? (congrArg List.head? hasked))
  have hbulk := StreamLink.isBulk_bulkOctets serial
    (part (blob firmwareKind smallImage.bytes) 16 3 1)
  exact ⟨serial, hmem, hbulk, shipped_run
    (rfl : ofConfig { chunkSize := bareConfig.streamChunkSize } {} bareConfig {} = .ok streamStart)
    _ _ hmem hbulk⟩

/-! ## A part that is too long -/

/-- Settings with parts that are longer than a frame can declare. -/
def longConfig : LinkConfig := { bareConfig with streamChunkSize := 70000 }

def longStart : Session StreamLink DeviceService RadioQueue :=
  { streamStart with link := { chunkSize := longConfig.streamChunkSize } }

/-- A firmware file that goes out as one part under these settings and is longer than a frame can
declare. -/
def longFile : Bytes := [0, 0, 0] ++ FileKind.firmwareMark ++ List.replicate 65536 0

theorem length_longFile : longFile.length = 65544 := by
  rw [longFile, List.length_append, List.length_replicate]
  rfl

theorem ofBytes_longFile : FirmwareImage.ofBytes longFile "1.0" =
    .ok ⟨.firmware, "1.0", longFile⟩ := by
  have hmark : (longFile.drop 3).take 5 = FileKind.firmwareMark := rfl
  rw [FirmwareImage.ofBytes, if_neg nofun, FileKind.detect?, if_pos hmark]

/-- Settings may be usable and yet have a part go out, when the watch asks for it, as what is no
whole frame. -/
theorem unwhole_firstPart :
    longConfig.validate = .ok () ∧
    ofConfig { chunkSize := longConfig.streamChunkSize } {} longConfig {} = .ok longStart ∧
    FirmwareImage.ofBytes longFile "1.0" = .ok ⟨.firmware, "1.0", longFile⟩ ∧
    ∃ serial,
      let t := longStart.run (launchOf longFile ++ [goFor 70000])
      let sent := part (blob firmwareKind longFile) 69996 1 1
      t.upload = installUpload ⟨.firmware, "1.0", longFile⟩ (.sending 69996 1 1) ∧
      t.asked = [.write .stream (StreamLink.bulkOctets serial sent)] ∧
      StreamLink.IsBulk (.write .stream (StreamLink.bulkOctets serial sent))
        (StreamLink.bulkOctets serial sent) ∧
      ¬ WholeFrame sent (StreamLink.bulkOctets serial sent) := by
  have hidle : longStart.Unengaged :=
    ⟨rfl, rfl, rfl, Registry.routed_empty, rfl⟩
  have hinfo : (PhoneInfo.packing.write longStart.handshake.phoneInfo).length <
      Cipher.Ccm.lengthLimit := by decide +kernel
  have hlength : (blob firmwareKind longFile).length = 65571 := by
    rw [length_blob, length_longFile]
  have hcount : partCount (blob firmwareKind longFile).length 69996 = 1 := by
    rw [partCount, hlength]
  have hlong : Frame.maxPayload < (part (blob firmwareKind longFile) 69996 1 1).length := by
    simp only [part, List.length_append, Bytes.length_le16, List.length_take, List.length_drop,
      hlength]
    decide
  have hfirmware : FirmwareImage.isFirmware ⟨.firmware, "1.0", longFile⟩ = true := rfl
  have hsize : partSize 70000 longStart.link.chunkSize = 69996 := rfl
  obtain ⟨hsending, serial, hasked⟩ := run_launch hidle ⟨rfl, rfl⟩ hinfo bareHost (.zero 16)
    (.replicate 16 1) hfirmware hsize (by decide) (Nat.le_trans (Nat.le_of_eq hcount) (by decide))
  dsimp only at hsending hasked
  rw [hcount] at hsending hasked
  refine ⟨rfl, rfl, ofBytes_longFile, serial, hsending, hasked,
    StreamLink.isBulk_bulkOctets serial _, ?_⟩
  rw [StreamLink.wholeFrame_bulkOctets_iff]
  exact Nat.not_le.2 hlong

end Session

end WatchLink
