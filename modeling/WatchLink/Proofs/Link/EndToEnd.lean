import WatchLink.Proofs.Command.ReadBack
import WatchLink.Proofs.Link.Writing
import WatchLink.Proofs.Reassembler.Cutting

/-!
# From one stream link to another

Two stream links whose ciphers hold each other's keys. `writeAll` writes commands one after the
other, `receiveAll` takes in reads one after the other. A command that leaves room for the counter
and the tag in a frame is written as one frame, and the other end reads that frame as the command's
bytes; that is the step. Since the reassembler does not mind where the octets of whole frames are
cut, the commands that are written are the commands that come in.
-/

namespace WatchLink.StreamLink

/-- Write one command after the other into a transaction. -/
def writeAll (link : StreamLink) (cipher : Option PacketCipher) (commands : List Command) :
    Writing StreamLink :=
  Writing.each (fun link command => link.writeCommand command cipher) commands link

/-- Take in one read of the stream after the other; the payloads they complete, in order. -/
def receiveAll (cipher : Option PacketCipher) :
    StreamLink → List Bytes → StreamLink × List Inbound
  | link, [] => (link, [])
  | link, data :: reads =>
    let (next, inbound) := link.receive .stream data cipher
    let (last, more) := receiveAll cipher next reads
    (last, inbound ++ more)

/-- What a link that holds this cipher makes of a frame. -/
def read? (cipher : Option PacketCipher) (frame : Frame) : Option Inbound :=
  (payload? cipher frame).bind (inbound? frame.channel)

/-- A sealed frame that can be opened is read as its plain payload. -/
theorem read?_of_sealed {cipher : PacketCipher} {frame : Frame} {channel : Channel}
    {plain : Bytes} (hchannel : frame.channel = channel) (htype : frame.dataType = .encrypted)
    (hopened : cipher.opened frame.payload = .ok plain) :
    read? (some cipher) frame = inbound? channel plain := by
  rw [read?, payload?, if_pos htype, Option.getD_some, hopened, hchannel]
  rfl

theorem read?_of_unsealed {cipher : Option PacketCipher} {frame : Frame} {channel : Channel}
    (hchannel : frame.channel = channel) (htype : frame.dataType ≠ .encrypted) :
    read? cipher frame = inbound? channel frame.payload := by
  rw [read?, payload?, if_neg htype, hchannel]
  rfl

theorem receive_stream (link : StreamLink) (data : Bytes) (cipher : Option PacketCipher) :
    link.receive .stream data cipher =
      ({ link with reassembler := (link.reassembler.push data).1 },
        (link.reassembler.push data).2.filterMap (read? cipher)) := rfl

/-- Taking in reads is reassembling them and making something of every frame. -/
theorem receiveAll_eq (link : StreamLink) (cipher : Option PacketCipher) (reads : List Bytes) :
    link.receiveAll cipher reads =
      ({ link with reassembler := (link.reassembler.pushAll reads).1 },
        (link.reassembler.pushAll reads).2.filterMap (read? cipher)) := by
  induction reads generalizing link with
  | nil => rfl
  | cons data reads ih =>
      rw [receiveAll, receive_stream]
      simp only [ih, Reassembler.pushAll_cons, List.filterMap_append]

/-- Whole frames leave the receiver as it was, in whatever reads they come. -/
theorem receiveAll_of_flatten_eq (link : StreamLink) (cipher : Option PacketCipher)
    (frames : List Frame) (reads : List Bytes) (hbuffer : link.reassembler.buffer = [])
    (h : ∀ frame ∈ frames, frame.payload.length ≤ Frame.maxPayload)
    (hreads : reads.flatten = frames.flatMap Frame.octets) :
    link.receiveAll cipher reads =
      (link, (frames.map Frame.received).filterMap (read? cipher)) := by
  rw [receiveAll_eq, Reassembler.pushAll_of_flatten_eq _ frames reads hbuffer h hreads]

section

variable [CipherSuite] (keys : SessionKeys)

/-- A command of at most 65526 bytes is written as one frame, which the other end reads as the
command's bytes. -/
theorem exists_writeCommand (link : StreamLink) (command : Command)
    (h : command.toBytes.length ≤ 65526) :
    ∃ (next : StreamLink) (frame : Frame),
      (link.writeCommand command (some keys.cipher)).Puts next (.write .stream frame.octets) ∧
      frame.payload.length ≤ Frame.maxPayload ∧
      read? (some keys.reversed.cipher) frame.received = some (.command command.toBytes) := by
  by_cases htype : dataTypeOf command = .encrypted
  · -- The counter and the tag take six of the octets that a frame has room for.
    have hshort : command.toBytes.length < Cipher.Ccm.lengthLimit := by
      rw [Cipher.Ccm.lengthLimit]
      omega
    obtain ⟨text, htext, hwritten⟩ := link.exists_writeCommand_of_sealed keys htype hshort
    have hlen := keys.length_of_sealed_eq_ok htext
    refine ⟨_, _, hwritten, ?_, ?_⟩
    · simp only [sealedFrame, List.length_append, Bytes.length_le16, hlen, Frame.maxPayload,
        Cipher.Ccm.tagSize]
      omega
    · rw [htype]
      have hchannel : (link.sealedFrame (.command 0 .encrypted command.toBytes)
          text).received.channel = .protoTx := Frame.received_channel rfl rfl
      exact read?_of_sealed hchannel ((Frame.received_dataType_eq_encrypted_iff _).2 rfl)
        (keys.opened_le16_append htext)
  · refine ⟨_, _, writeFrame_of_unsealed link (.command 0 (dataTypeOf command) command.toBytes)
      (some keys.cipher) htype, Nat.le_trans h (by decide), ?_⟩
    rw [dataTypeOf_eq_auth htype]
    have hchannel : Frame.channel (Frame.received
        { Frame.command 0 .auth command.toBytes with serial := link.serial }) = .protoTx :=
      Frame.received_channel rfl rfl
    exact read?_of_unsealed hchannel
      (mt (Frame.received_dataType_eq_encrypted_iff _).1 (by decide : (2 : UInt8) ≠ 1))

/-- Commands are written as as many frames, which the other end reads as their bytes. -/
theorem exists_writeAll (link : StreamLink) (commands : List Command)
    (h : ∀ command ∈ commands, command.toBytes.length ≤ 65526) :
    ∃ (last : StreamLink) (frames : List Frame),
      Writing.PutsEach (fun link command => link.writeCommand command (some keys.cipher)) link
        commands last (frames.map fun frame => .write .stream frame.octets) ∧
      (∀ frame ∈ frames, frame.payload.length ≤ Frame.maxPayload) ∧
      (frames.map Frame.received).filterMap (read? (some keys.reversed.cipher)) =
        commands.map fun command => .command command.toBytes := by
  induction commands generalizing link with
  | nil => exact ⟨link, [], .nil link, by simp, rfl⟩
  | cons command commands ih =>
      obtain ⟨hcommand, hcommands⟩ := List.forall_mem_cons.1 h
      obtain ⟨next, frame, hwrite, hframe, hread⟩ := exists_writeCommand keys link command hcommand
      obtain ⟨last, frames, hwrites, hframes, hreads⟩ := ih next hcommands
      refine ⟨last, frame :: frames, .cons hwrite hwrites,
        List.forall_mem_cons.2 ⟨hframe, hframes⟩, ?_⟩
      rw [List.map_cons, List.filterMap_cons_some hread, hreads, List.map_cons]

/-- Commands that are written one after the other, into whatever transaction, come in at the other
end, each once, in order and read as they were, in whatever reads their octets come. The receiver is
as before, so nothing of them was discarded or dropped and nothing is still buffered. -/
theorem receiveAll_writeAll (link : StreamLink) (commands : List Command)
    (h : ∀ command ∈ commands, command.toBytes.length ≤ 65526) :
    ∃ (last : StreamLink) (written : List Bytes),
      (∀ transaction, link.writeAll (some keys.cipher) commands transaction =
        (last, transaction.add (written.map (.write .stream)), .ok ())) ∧
      (∀ (receiver : StreamLink) (reads : List Bytes), receiver.reassembler = {} →
        reads.flatten = written.flatten →
        receiver.receiveAll (some keys.reversed.cipher) reads =
          (receiver, commands.map fun command => .command command.toBytes)) ∧
      ∀ command ∈ commands, Command.ofBytes command.toBytes = .ok command := by
  obtain ⟨last, frames, hwrites, hframes, hreads⟩ := exists_writeAll keys link commands h
  refine ⟨last, frames.map Frame.octets, ?_, ?_, ?_⟩
  · intro transaction
    rw [List.map_map]
    exact hwrites.each_eq transaction
  · intro receiver reads hfresh hflatten
    rw [← List.flatMap_def] at hflatten
    rw [receiveAll_of_flatten_eq receiver _ frames reads (by rw [hfresh]) hframes hflatten, hreads]
  · intro command hmem
    exact Command.ofBytes_toBytes command (Nat.lt_of_le_of_lt (h command hmem) (by decide))

end

/-- Two commands, one of them sealed, written where serial and counter wrap and read octet by
octet. -/
theorem receiveAll_writeAll_octet_by_octet :
    ∃ (last : StreamLink) (written : List Bytes),
      writeAll { serial := 255, counter := 65535 }
        (some (SessionKeys.cipher ⟨.zero 16, .replicate 16 1, .zero 4, .replicate 4 1⟩))
        [.request 2 1, .request 1 27] { name := "two" } =
          (last, { name := "two", ops := written.map (.write .stream) }, .ok ()) ∧
      receiveAll (some (SessionKeys.cipher ⟨.replicate 16 1, .zero 16, .replicate 4 1, .zero 4⟩))
        {} (written.flatten.map fun octet => [octet]) =
          ({}, [.command (Command.request 2 1).toBytes,
            .command (Command.request 1 27).toBytes]) := by
  obtain ⟨last, written, hwrite, hread, -⟩ := receiveAll_writeAll
    ⟨.zero 16, .replicate 16 1, .zero 4, .replicate 4 1⟩ { serial := 255, counter := 65535 }
    [.request 2 1, .request 1 27] (by decide)
  have hreads : (written.flatten.map fun octet => [octet]).flatten = written.flatten := by
    rw [← List.flatMap_def, List.flatMap_singleton']
  exact ⟨last, written, hwrite { name := "two" }, hread {} _ rfl hreads⟩

end WatchLink.StreamLink
