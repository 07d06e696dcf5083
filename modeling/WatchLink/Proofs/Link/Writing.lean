import WatchLink.Link.Stream
import WatchLink.Proofs.Cipher.Opening
import WatchLink.Proofs.Frame.Reading

/-!
# What a stream link writes

A frame is written in one of two forms. Unsealed, its payload travels as it is and the link's
counter stays; sealed, the link spends the next counter, which stands before the sealed payload.
The serial goes up by one either way, and a cipher that refuses leaves the link as it is.
-/

namespace WatchLink.StreamLink

variable (link : StreamLink) (frame : Frame) (cipher : Option PacketCipher)

def afterUnsealed : StreamLink := { link with serial := link.serial + 1 }

def afterSealed : StreamLink :=
  { link with serial := link.serial + 1, counter := link.counter + 1 }

/-- A sealed frame as it travels: under the link's serial, with the counter before the text. -/
def sealedFrame (text : Bytes) : Frame :=
  { frame with serial := link.serial, payload := Bytes.le16 (link.counter + 1) ++ text }

theorem writeFrame_of_unsealed (h : frame.dataType ≠ .encrypted) :
    (link.writeFrame frame cipher).Puts link.afterUnsealed
      (.write .stream { frame with serial := link.serial }.octets) := by
  intro transaction
  simp only [writeFrame, encodeNext, Frame.encode, if_neg h]
  rfl

theorem writeFrame_of_sealed (h : frame.dataType = .encrypted) {text : Bytes}
    (hs : (cipher.getD .refusing).sealed (link.counter + 1) frame.payload = .ok text) :
    (link.writeFrame frame cipher).Puts link.afterSealed
      (.write .stream (link.sealedFrame frame text).octets) := by
  intro transaction
  simp only [writeFrame, encodeNext, Frame.encode, if_pos h, PacketCipher.sealNext, hs]
  rfl

theorem writeFrame_of_refused (h : frame.dataType = .encrypted) {e : CipherError}
    (hs : (cipher.getD .refusing).sealed (link.counter + 1) frame.payload = .error e) :
    (link.writeFrame frame cipher).Fails link .codec := by
  intro transaction
  simp only [writeFrame, encodeNext, Frame.encode, if_pos h, PacketCipher.sealNext, hs]

/-- With keys, a command that is to be sealed goes out unless it is too long. -/
theorem exists_writeCommand_of_sealed [CipherSuite] (keys : SessionKeys) {command : Command}
    (h : dataTypeOf command = .encrypted)
    (short : command.toBytes.length < Cipher.Ccm.lengthLimit) :
    ∃ text, keys.cipher.sealed (link.counter + 1) command.toBytes = .ok text ∧
      (link.writeCommand command (some keys.cipher)).Puts link.afterSealed (.write .stream
        (link.sealedFrame (.command 0 (dataTypeOf command) command.toBytes) text).octets) := by
  obtain ⟨text, htext⟩ := keys.exists_sealed (link.counter + 1) short
  exact ⟨text, htext,
    writeFrame_of_sealed link (.command 0 (dataTypeOf command) command.toBytes) _ h htext⟩

/-- The two forms are all there are. -/
theorem writeFrame_cases {next : StreamLink} {op : RadioOp}
    (h : (link.writeFrame frame cipher).Puts next op) :
    (frame.dataType ≠ .encrypted ∧ next = link.afterUnsealed ∧
      op = .write .stream { frame with serial := link.serial }.octets) ∨
    (frame.dataType = .encrypted ∧ next = link.afterSealed ∧ ∃ text,
      (cipher.getD .refusing).sealed (link.counter + 1) frame.payload = .ok text ∧
      op = .write .stream (link.sealedFrame frame text).octets) := by
  by_cases htype : frame.dataType = .encrypted
  · cases hs : (cipher.getD .refusing).sealed (link.counter + 1) frame.payload with
    | error e => exact absurd (writeFrame_of_refused link frame cipher htype hs) h.not_fails
    | ok text =>
        obtain ⟨rfl, rfl⟩ := h.inj (writeFrame_of_sealed link frame cipher htype hs)
        exact .inr ⟨htype, rfl, text, rfl, rfl⟩
  · obtain ⟨rfl, rfl⟩ := h.inj (writeFrame_of_unsealed link frame cipher htype)
    exact .inl ⟨htype, rfl, rfl⟩

theorem reassembler_writeFrame {next : StreamLink} {op : RadioOp}
    (h : (link.writeFrame frame cipher).Puts next op) :
    next.reassembler = link.reassembler := by
  rcases writeFrame_cases link frame cipher h with ⟨-, rfl, -⟩ | ⟨-, rfl, -⟩ <;> rfl

/-- A command that is not sealed travels as authentication data. -/
theorem dataTypeOf_eq_auth {command : Command} (h : dataTypeOf command ≠ .encrypted) :
    dataTypeOf command = .auth := by
  rw [dataTypeOf] at h ⊢
  split at h
  · rename_i hlater
    exact if_pos hlater
  · exact absurd rfl h

end WatchLink.StreamLink
