import WatchLink.Proofs.Link.Settling

/-!
# What a link seals

With the keys of an encrypted connection both links seal the commands they write, except that a
stream lets the later part of the handshake travel in clear, and upload parts with it. Without keys
nothing can be sealed, and there the links differ: a stream refuses whatever it would have sealed,
while on characteristics every value is written as it is.
-/

namespace WatchLink

/-- An operation that writes nothing. -/
def RadioOp.Writeless (op : RadioOp) : Prop := ∀ endpoint data, op ≠ .write endpoint data

/-- What is written sealed and what in clear, read off the operation. -/
class Sealing (L : Type) [CipherSuite] [Link L] [Settling L] [BulkReading L] where
  /-- The operation writes the command as it is. -/
  InClear : Command → RadioOp → Prop
  /-- The operation writes something sealed with the keys. -/
  Sealed : SessionKeys → RadioOp → Prop
  /-- The operation writes an upload part as it is. -/
  PartInClear : RadioOp → Prop
  /-- What the layout says of all it is made of. -/
  Even : BulkReading.Layout L → Prop
  even_bind (link : L) (discovery : Discovery) (h : Even (BulkReading.layout link)) :
    Even (BulkReading.layout (Link.bind link discovery).1)
  even_teardown (link : L) (h : Even (BulkReading.layout link)) :
    Even (BulkReading.layout (Link.teardown link))
  unsettled_ne : Settling.unsettled (L := L) ≠ some .clearText
  writeless_startup (link : L) : ∀ op ∈ Link.startup link, op.Writeless
  inClear_of_unkeyed {link next : L} {command : Command} {op : RadioOp}
    (written : (Link.writeCommand link command none).Puts next op) : InClear command op
  sealed_of_keyed {link next : L} {command : Command} {keys : SessionKeys} {op : RadioOp}
    (even : Even (BulkReading.layout link)) (mode : Settling.mode? link = some .encrypted)
    (written : (Link.writeCommand link command (some keys.cipher)).Puts next op) :
    Sealed keys op ∨ command.kind = Command.authKind ∧ InClear command op
  part_of_keyed {link next : L} {part : Bytes} {keys : SessionKeys} {op : RadioOp}
    (even : Even (BulkReading.layout link)) (mode : Settling.mode? link = some .encrypted)
    (written : (Link.writeBulk link part (some keys.cipher)).Puts next op) :
    Sealed keys op ∨ PartInClear op

namespace Sealing

variable (L : Type) [CipherSuite] [Link L] [Settling L] [BulkReading L] [Sealing L]

/-- The operation writes a command of the handshake as it is. -/
def Introduces (op : RadioOp) : Prop :=
  ∃ command, command.kind = Command.authKind ∧ InClear L command op

/-- What the radio may be asked where a connection starts or ends. -/
def Bare (op : RadioOp) : Prop := op.Writeless ∨ Introduces L op

/-- What the radio may be asked on a connection with these keys. -/
inductive Guarded (keys : SessionKeys) : RadioOp → Prop
  | writeless {op : RadioOp} (writeless : op.Writeless) : Guarded keys op
  | introduces {op : RadioOp} (introduces : Introduces L op) : Guarded keys op
  | sealed {op : RadioOp} (sealed : Sealed L keys op) : Guarded keys op
  | part {op : RadioOp} (part : PartInClear L op) : Guarded keys op

end Sealing

/-! ## Over a stream -/

namespace StreamLink

/-- A frame with the command in it, of a data type that is not sealed. -/
inductive InClear (command : Command) : RadioOp → Prop
  | frame (serial : UInt8) (unsealed : dataTypeOf command ≠ .encrypted) :
      InClear command (.write .stream
        { Frame.command 0 (dataTypeOf command) command.toBytes with serial := serial }.octets)

/-- A frame as it travels when its payload was sealed with the keys. -/
inductive Sealed [CipherSuite] (keys : SessionKeys) : RadioOp → Prop
  | frame (link : StreamLink) (frame : Frame) {text : Bytes} (type : frame.dataType = .encrypted)
      (text_eq : keys.cipher.sealed (link.counter + 1) frame.payload = .ok text) :
      Sealed keys (.write .stream (link.sealedFrame frame text).octets)

/-- A frame of the storage channel. -/
inductive PartInClear : RadioOp → Prop
  | frame (serial : UInt8) (part : Bytes) :
      PartInClear (.write .stream { bulkFrame part with serial := serial }.octets)

/-- Only the handshake is not sealed. -/
theorem kind_of_dataTypeOf {command : Command} (h : dataTypeOf command ≠ .encrypted) :
    command.kind = Command.authKind := by
  rw [dataTypeOf] at h
  split at h
  · rename_i hlater
    exact hlater.1
  · exact absurd rfl h

theorem writeless_startup (link : StreamLink) : ∀ op ∈ Link.startup link, op.Writeless :=
  List.forall_mem_singleton.2 fun _ _ => by nofun

variable [CipherSuite] {link next : StreamLink} {command : Command} {op : RadioOp}

omit [CipherSuite] in
theorem inClear_of_unkeyed (written : (link.writeCommand command none).Puts next op) :
    InClear command op := by
  rcases writeFrame_cases link _ none written with ⟨htype, -, rfl⟩ | ⟨-, -, text, hsealed, -⟩
  · exact .frame link.serial htype
  · cases hsealed

theorem sealed_of_keyed {keys : SessionKeys}
    (written : (link.writeCommand command (some keys.cipher)).Puts next op) :
    Sealed keys op ∨ command.kind = Command.authKind ∧ InClear command op := by
  rcases writeFrame_cases link _ _ written with ⟨htype, -, rfl⟩ | ⟨htype, -, text, hsealed, rfl⟩
  · exact .inr ⟨kind_of_dataTypeOf htype, .frame link.serial htype⟩
  · exact .inl (.frame link _ htype hsealed)

omit [CipherSuite] in
theorem partInClear_of_written {part : Bytes} {cipher : Option PacketCipher}
    (written : (link.writeBulk part cipher).Puts next op) : PartInClear op := by
  have hunsealed : (bulkFrame part).dataType ≠ .encrypted := by
    intro htype
    cases htype
  obtain ⟨-, rfl⟩ := written.inj (writeFrame_of_unsealed link _ cipher hunsealed)
  exact .frame link.serial part

instance : Sealing StreamLink where
  InClear := InClear
  Sealed := Sealed
  PartInClear := PartInClear
  Even _ := True
  even_bind _ _ _ := trivial
  even_teardown _ _ := trivial
  unsettled_ne := nofun
  writeless_startup := writeless_startup
  inClear_of_unkeyed := inClear_of_unkeyed
  sealed_of_keyed _ _ := sealed_of_keyed
  part_of_keyed _ _ written := .inr (partInClear_of_written written)

end StreamLink

/-! ## Over characteristics -/

namespace GattLink

/-- A value that is the command. -/
inductive InClear (command : Command) : RadioOp → Prop
  | value (uuid : Uuid) : InClear command (.write (.resource uuid) command.toBytes)

/-- A value under its counter, sealed with the keys. -/
inductive Sealed [CipherSuite] (keys : SessionKeys) : RadioOp → Prop
  | value (uuid : Uuid) (counter : UInt16) {value text : Bytes}
      (text_eq : keys.cipher.sealed counter value = .ok text) :
      Sealed keys (.write (.resource uuid) (Bytes.le16 counter ++ text))

/-- The characteristics that are written to are sealed just when the layout is encrypted. -/
def Even (layout : Option BoundResources) : Prop :=
  ∀ b, layout = some b →
    b.commandWrite.encrypted = b.encrypted ∧ b.dataUpload.encrypted = b.encrypted

theorem even_none : Even none := by
  intro b hb
  cases hb

theorem even_bind (link : GattLink) (discovery : Discovery) :
    Even (link.bind discovery).1.layout := by
  rw [bind]
  split
  · rintro _ ⟨⟩
    exact ⟨rfl, rfl⟩
  · exact even_none

theorem encrypted_of_mode? {link : GattLink} {b : BoundResources} (even : Even link.layout)
    (mode : link.mode? = some .encrypted) (bound : link.bound = some b) :
    b.commandWrite.encrypted = true ∧ b.dataUpload.encrypted = true := by
  obtain ⟨_, hbound, hencrypted⟩ := (mode?_eq_encrypted_iff link).1 mode
  obtain rfl := Option.some.inj (bound.symm.trans hbound)
  have hlayout : link.layout = some b.resetCounters := by
    rw [layout, bound]
    rfl
  obtain ⟨hcommands, huploads⟩ := even _ hlayout
  exact ⟨hcommands.trans hencrypted, huploads.trans hencrypted⟩

theorem writeless_startup (link : GattLink) : ∀ op ∈ link.startup, op.Writeless := by
  intro op hmem
  rw [startup] at hmem
  rcases List.mem_append.1 hmem with hfirst | hsubscribe
  · rcases List.mem_cons.1 hfirst with rfl | hstate
    · exact fun _ _ => by nofun
    · obtain rfl := List.mem_singleton.1 hstate
      exact fun _ _ => by nofun
  · split at hsubscribe
    · cases hsubscribe
    · obtain ⟨r, -, rfl⟩ := List.mem_map.1 hsubscribe
      exact fun _ _ => by nofun

variable [CipherSuite] {link next : GattLink} {keys : SessionKeys} {op : RadioOp}

omit [CipherSuite] in
theorem inClear_of_unkeyed {command : Command}
    (written : (link.writeCommand command none).Puts next op) : InClear command op := by
  obtain ⟨b, r, value, -, hencode, -, rfl⟩ := writeCommand_cases written
  rcases encode_cases hencode with ⟨-, -, rfl⟩ | ⟨c, tail, hcipher, -⟩
  · exact .value _
  · simp [Resource.cipherFor] at hcipher

/-- On an encrypted characteristic a cipher that is there is passed through. -/
theorem sealed_of_encode {r s : Resource} {value text : Bytes} (encrypted : r.encrypted = true)
    (h : r.encode value (some keys.cipher) = (s, .ok text)) (uuid : Uuid) :
    Sealed keys (.write (.resource uuid) text) := by
  have hcipher : r.cipherFor (some keys.cipher) = some keys.cipher := if_pos encrypted
  rcases encode_cases h with ⟨hclear, -⟩ | ⟨c, tail, hsome, -, hsealed, rfl⟩
  · rw [hcipher] at hclear
    cases hclear
  · rw [hcipher] at hsome
    cases hsome
    exact .value uuid _ hsealed

theorem sealed_of_keyed {command : Command} (even : Even link.layout)
    (mode : link.mode? = some .encrypted)
    (written : (link.writeCommand command (some keys.cipher)).Puts next op) :
    Sealed keys op := by
  obtain ⟨b, r, value, hbound, hencode, -, rfl⟩ := writeCommand_cases written
  exact sealed_of_encode (encrypted_of_mode? even mode hbound).1 hencode _

theorem part_of_keyed {part : Bytes} (even : Even link.layout)
    (mode : link.mode? = some .encrypted)
    (written : (link.writeBulk part (some keys.cipher)).Puts next op) : Sealed keys op := by
  obtain ⟨b, r, value, hbound, hencode, -, rfl⟩ := writeBulk_cases written
  exact sealed_of_encode (encrypted_of_mode? even mode hbound).2 hencode _

instance : Sealing GattLink where
  InClear := InClear
  Sealed := Sealed
  PartInClear _ := False
  Even := Even
  even_bind link discovery _ := even_bind link discovery
  even_teardown _ _ := even_none
  unsettled_ne := nofun
  writeless_startup := writeless_startup
  inClear_of_unkeyed := inClear_of_unkeyed
  sealed_of_keyed even mode written := .inl (sealed_of_keyed even mode written)
  part_of_keyed even mode written := .inl (part_of_keyed even mode written)

end GattLink

end WatchLink
