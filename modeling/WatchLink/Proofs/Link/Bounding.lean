import WatchLink.Proofs.Link.Sealing

/-!
# How large the parts of an upload can be

How large a part a link takes depends on what it was made with, on what it has settled on and on the
size of values that the connection carries. So writing and reading leave it alone, and a size that
was chosen for one part is right for the next. On characteristics a part that is no larger makes a
value that the connection carries, with the seal of an encrypted layout.
-/

namespace WatchLink

/-- What a link writes and reads leaves its largest part alone. -/
class Bounding (L : Type) [Link L] : Prop where
  maxBulk_writeCommand {link next : L} {command : Command} {cipher : Option PacketCipher}
    {op : RadioOp} (written : (Link.writeCommand link command cipher).Puts next op) :
    Link.maxBulk next = Link.maxBulk link
  maxBulk_writeBulk {link next : L} {part : Bytes} {cipher : Option PacketCipher} {op : RadioOp}
    (written : (Link.writeBulk link part cipher).Puts next op) :
    Link.maxBulk next = Link.maxBulk link
  maxBulk_receive (link : L) (endpoint : Endpoint) (data : Bytes) (cipher : Option PacketCipher) :
    Link.maxBulk (Link.receive link endpoint data cipher).1 = Link.maxBulk link
  maxBulk_resync (link : L) : Link.maxBulk (Link.resync link) = Link.maxBulk link
  maxBulk_resetCounters (link : L) :
    Link.maxBulk (Link.resetCounters link) = Link.maxBulk link

instance : Bounding StreamLink where
  maxBulk_writeCommand := StreamLink.chunkSize_writeFrame
  maxBulk_writeBulk := StreamLink.chunkSize_writeBulk
  maxBulk_receive := StreamLink.chunkSize_receive
  maxBulk_resync _ := rfl
  maxBulk_resetCounters _ := rfl

namespace GattLink

theorem maxBulk_of_layout {link next : GattLink} (layout : next.layout = link.layout)
    (mtu : next.mtu = link.mtu) : next.maxBulk = link.maxBulk := by
  have hroom (link : GattLink) : link.maxBulk = link.mtu - (attOverhead +
      link.layout.elim 0 fun b => if b.encrypted then sealOverhead else 0) := by
    rw [maxBulk, GattLink.layout]
    cases link.bound <;> rfl
  rw [hroom, hroom, layout, mtu]

theorem mtu_writeCommand {link next : GattLink} {command : Command} {cipher : Option PacketCipher}
    {op : RadioOp} (written : (link.writeCommand command cipher).Puts next op) :
    next.mtu = link.mtu := by
  obtain ⟨b, r, value, -, -, rfl, -⟩ := writeCommand_cases written
  rfl

theorem mtu_writeBulk {link next : GattLink} {part : Bytes} {cipher : Option PacketCipher}
    {op : RadioOp} (written : (link.writeBulk part cipher).Puts next op) :
    next.mtu = link.mtu := by
  obtain ⟨b, r, value, -, -, rfl, -⟩ := writeBulk_cases written
  rfl

theorem mtu_receive (link : GattLink) (endpoint : Endpoint) (data : Bytes)
    (cipher : Option PacketCipher) : (link.receive endpoint data cipher).1.mtu = link.mtu := by
  unfold receive
  split <;> rfl

instance : Bounding GattLink where
  maxBulk_writeCommand written :=
    maxBulk_of_layout (layout_writeCommand written) (mtu_writeCommand written)
  maxBulk_writeBulk written := maxBulk_of_layout (layout_writeBulk written) (mtu_writeBulk written)
  maxBulk_receive link endpoint data cipher :=
    maxBulk_of_layout (layout_receive link endpoint data cipher)
      (mtu_receive link endpoint data cipher)
  maxBulk_resync _ := rfl
  maxBulk_resetCounters link := maxBulk_of_layout (layout_resetCounters link) rfl

/-- A part that the link has room for makes a value that the connection carries. -/
theorem length_of_writeBulk [CipherSuite] {link next : GattLink} {part : Bytes}
    {keys? : Option SessionKeys} {op : RadioOp} (even : Even link.layout)
    (room : 0 < link.maxBulk) (fits : part.length ≤ link.maxBulk)
    (written : (link.writeBulk part (keys?.map SessionKeys.cipher)).Puts next op) :
    ∃ b value, link.bound = some b ∧ op = .write (.resource b.dataUpload.uuid) value ∧
      value.length + attOverhead ≤ link.mtu := by
  obtain ⟨b, r, value, hbound, hencode, -, rfl⟩ := writeBulk_cases written
  have hlayout : link.layout = some b.resetCounters := by
    rw [layout, hbound]
    rfl
  have heven : b.dataUpload.encrypted = b.encrypted := (even _ hlayout).2
  simp only [maxBulk, hbound] at room fits
  refine ⟨b, value, hbound, rfl, ?_⟩
  rcases encode_cases hencode with ⟨-, -, rfl⟩ | ⟨c, tail, hsome, -, hsealed, rfl⟩
  · omega
  · -- What is sealed is so on an encrypted layout, and there room was left for it.
    rw [Resource.cipherFor] at hsome
    split at hsome
    · rename_i hencrypted
      obtain ⟨keys, rfl, rfl⟩ := Option.map_eq_some_iff.1 hsome
      have hlength := keys.length_of_sealed_eq_ok hsealed
      rw [heven] at hencrypted
      rw [if_pos hencrypted, sealOverhead] at room fits
      rw [List.length_append, Bytes.length_le16, hlength, Cipher.Ccm.tagSize]
      omega
    · cases hsome

end GattLink

end WatchLink
