import WatchLink.Proofs.Link.BulkReading

/-!
# What a link was made with

A link is made with parameters: over a stream the size of upload parts, over characteristics the
layouts to look for and the size to ask for. They are what tearing down leaves alone, so whether a
link that was torn down is as good as new comes down to this: nothing that a link does alters them.
-/

namespace WatchLink

/-- Whatever a link does, another one made with its parameters would be the same. -/
class Making (L : Type) [Link L] where
  /-- A link newly made with the same parameters. -/
  made : L → L
  made_bind (link : L) (discovery : Discovery) : made (Link.bind link discovery).1 = made link
  made_receive (link : L) (endpoint : Endpoint) (data : Bytes) (cipher : Option PacketCipher) :
    made (Link.receive link endpoint data cipher).1 = made link
  made_writeCommand {link next : L} {command : Command} {cipher : Option PacketCipher}
    {op : RadioOp} (written : (Link.writeCommand link command cipher).Puts next op) :
    made next = made link
  made_writeBulk {link next : L} {part : Bytes} {cipher : Option PacketCipher} {op : RadioOp}
    (written : (Link.writeBulk link part cipher).Puts next op) : made next = made link
  made_setMtu (link : L) (mtu : Nat) : made (Link.setMtu link mtu) = made link
  made_resetCounters (link : L) : made (Link.resetCounters link) = made link
  made_resync (link : L) : made (Link.resync link) = made link
  made_teardown (link : L) : made (Link.teardown link) = made link

namespace StreamLink

/-- A stream newly made for upload parts of the same size. -/
def made (link : StreamLink) : StreamLink := { chunkSize := link.chunkSize }

theorem made_of_chunkSize {link next : StreamLink} (h : next.chunkSize = link.chunkSize) :
    next.made = link.made := by
  rw [made, made, h]

instance : Making StreamLink where
  made := made
  made_bind _ _ := rfl
  made_receive link endpoint data cipher :=
    made_of_chunkSize (chunkSize_receive link endpoint data cipher)
  made_writeCommand written := made_of_chunkSize (chunkSize_writeFrame written)
  made_writeBulk written := made_of_chunkSize (chunkSize_writeBulk written)
  made_setMtu _ _ := rfl
  made_resetCounters _ := rfl
  made_resync _ := rfl
  made_teardown _ := rfl

/-- A stream that was torn down is as new, but for the totals of its reassembler. -/
theorem teardown_eq (link : StreamLink) :
    Link.teardown link =
      { link.made with
        reassembler :=
          { discarded := link.reassembler.discarded, dropped := link.reassembler.dropped } } := rfl

end StreamLink

namespace GattLink

/-- A link newly made for the same layouts, to ask for the same size. -/
def made (link : GattLink) : GattLink :=
  { templates := link.templates, mtuRequest := link.mtuRequest }

theorem made_bind (link : GattLink) (discovery : Discovery) :
    (link.bind discovery).1.made = link.made := by
  rw [bind]
  split <;> rfl

theorem made_receive (link : GattLink) (endpoint : Endpoint) (data : Bytes)
    (cipher : Option PacketCipher) : (link.receive endpoint data cipher).1.made = link.made := by
  unfold receive
  split <;> rfl

instance : Making GattLink where
  made := made
  made_bind := made_bind
  made_receive := made_receive
  made_writeCommand written := by
    obtain ⟨_, _, _, -, -, rfl, -⟩ := writeCommand_cases written
    rfl
  made_writeBulk written := by
    obtain ⟨_, _, _, -, -, rfl, -⟩ := writeBulk_cases written
    rfl
  made_setMtu _ _ := rfl
  made_resetCounters _ := rfl
  made_resync _ := rfl
  made_teardown _ := rfl

end GattLink

end WatchLink
