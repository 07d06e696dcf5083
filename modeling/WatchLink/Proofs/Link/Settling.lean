import WatchLink.Proofs.Link.BulkReading

/-!
# What a link has settled on

A link that was bound has settled on how the two ends make themselves known, and nothing but binding
anew and tearing down changes that. A stream settles on nothing, for it is always encrypted. On
characteristics the layout says it, and a link is settled just when characteristics are bound. Where
nothing is settled, nothing but authentication can be written without a cipher: on a stream because
everything else is sealed, on characteristics because there is nowhere to write.
-/

namespace WatchLink

/-- How the two ends of a link make themselves known, as far as the link has settled on it. -/
class Settling (L : Type) [Link L] where
  mode? : L → Option HandshakeMode
  /-- What a link says that has settled on nothing. -/
  unsettled : Option HandshakeMode
  mode?_of_bind {link next : L} {discovery : Discovery} {mode : HandshakeMode}
    (bound : Link.bind link discovery = (next, .ok mode)) : mode? next = some mode
  mode?_of_bind_error {link next : L} {discovery : Discovery} {e : LinkError}
    (bound : Link.bind link discovery = (next, .error e)) : mode? next = unsettled
  mode?_teardown (link : L) : mode? (Link.teardown link) = unsettled
  mode?_writeCommand {link next : L} {command : Command} {cipher : Option PacketCipher}
    {op : RadioOp} (written : (Link.writeCommand link command cipher).Puts next op) :
    mode? next = mode? link
  mode?_writeBulk {link next : L} {part : Bytes} {cipher : Option PacketCipher} {op : RadioOp}
    (written : (Link.writeBulk link part cipher).Puts next op) : mode? next = mode? link
  mode?_receive (link : L) (endpoint : Endpoint) (data : Bytes) (cipher : Option PacketCipher) :
    mode? (Link.receive link endpoint data cipher).1 = mode? link
  mode?_resync (link : L) : mode? (Link.resync link) = mode? link
  mode?_setMtu (link : L) (mtu : Nat) : mode? (Link.setMtu link mtu) = mode? link
  mode?_resetCounters (link : L) : mode? (Link.resetCounters link) = mode? link
  closed {link : L} {command : Command} (h : mode? link = unsettled)
    (hkind : command.kind ≠ Command.authKind) :
    ∃ e, (Link.writeCommand link command none).Fails link e

instance : Settling StreamLink where
  mode? _ := some .encrypted
  unsettled := some .encrypted
  mode?_of_bind bound := by
    cases bound
    rfl
  mode?_of_bind_error _ := rfl
  mode?_teardown _ := rfl
  mode?_writeCommand _ := rfl
  mode?_writeBulk _ := rfl
  mode?_receive _ _ _ _ := rfl
  mode?_resync _ := rfl
  mode?_setMtu _ _ := rfl
  mode?_resetCounters _ := rfl
  closed {link command} _ hkind := by
    have htype : StreamLink.dataTypeOf command = .encrypted := by
      rw [StreamLink.dataTypeOf, if_neg fun h => hkind h.1]
    exact ⟨_, StreamLink.writeFrame_of_refused link _ none htype rfl⟩

namespace GattLink

/-- How the layout in use has both ends make themselves known. -/
def mode? (link : GattLink) : Option HandshakeMode :=
  link.bound.map fun b => if b.encrypted then .encrypted else .clearText

theorem mode?_eq_encrypted_iff (link : GattLink) :
    link.mode? = some .encrypted ↔ ∃ b, link.bound = some b ∧ b.encrypted = true := by
  rw [mode?, Option.map_eq_some_iff]
  refine exists_congr fun b => and_congr_right fun _ => ?_
  cases b.encrypted <;> simp

theorem isSome_mode? (link : GattLink) : link.mode?.isSome = link.bound.isSome :=
  Option.isSome_map

/-- What is settled depends on the layout only. -/
theorem mode?_of_layout {link next : GattLink} (h : next.layout = link.layout) :
    next.mode? = link.mode? := by
  have hmode (link : GattLink) :
      link.mode? = link.layout.map fun b => if b.encrypted then .encrypted else .clearText := by
    rw [mode?, layout, Option.map_map]
    rfl
  rw [hmode, hmode, h]

theorem mode?_of_bind {link next : GattLink} {discovery : Discovery} {mode : HandshakeMode}
    (bound : link.bind discovery = (next, .ok mode)) : next.mode? = some mode := by
  rw [bind] at bound
  split at bound
  · cases bound
    rfl
  · cases bound

theorem mode?_of_bind_error {link next : GattLink} {discovery : Discovery} {e : LinkError}
    (bound : link.bind discovery = (next, .error e)) : next.mode? = none := by
  rw [bind] at bound
  split at bound
  · cases bound
  · cases bound
    rfl

instance : Settling GattLink where
  mode? := mode?
  unsettled := none
  mode?_of_bind := mode?_of_bind
  mode?_of_bind_error := mode?_of_bind_error
  mode?_teardown _ := rfl
  mode?_writeCommand written := mode?_of_layout (layout_writeCommand written)
  mode?_writeBulk written := mode?_of_layout (layout_writeBulk written)
  mode?_receive link endpoint data cipher :=
    mode?_of_layout (layout_receive link endpoint data cipher)
  mode?_resync _ := rfl
  mode?_setMtu _ _ := rfl
  mode?_resetCounters link := mode?_of_layout (layout_resetCounters link)
  closed {link command} h _ := by
    have hbound : link.bound = none := Option.map_eq_none_iff.1 h
    exact ⟨.notConnected, writeCommand_of_unbound hbound command none⟩

end GattLink

end WatchLink
