import WatchLink.Proofs.Link.EndToEnd
import WatchLink.Proofs.Session.Deeds

/-!
# Whole frames in one read

A read that is made of whole frames, on a session that holds nothing half-read and nothing in its
inbox, comes down to handling the payloads of its frames one after the other: those that can be
opened with the cipher there was when the read came. The session then again holds nothing half-read
and nothing in its inbox, so the next read is of this form too.
-/

namespace WatchLink.Session

variable {S R : Type}

/-- Nothing is half-read, nothing waits in the inbox and no input was lost. -/
structure AtRest (s : Session StreamLink S R) : Prop where
  buffer : s.link.reassembler.buffer = []
  inbox : s.inbox = {}

theorem AtRest.of_eq {s t : Session StreamLink S R} (h : s.AtRest)
    (hreassembler : t.link.reassembler = s.link.reassembler) (hinbox : t.inbox = s.inbox) :
    t.AtRest where
  buffer := by
    rw [hreassembler]
    exact h.buffer
  inbox := by
    rw [hinbox]
    exact h.inbox

theorem AtRest.clearEffects {s : Session StreamLink S R} (h : s.AtRest) :
    s.clearEffects.AtRest := h.of_eq rfl rfl

/-- What is half-read and what waits are as they were, or both were given up. -/
inductive Kept (s t : Session StreamLink S R) : Prop
  | same (reassembler : t.link.reassembler = s.link.reassembler) (inbox : t.inbox = s.inbox)
  | givenUp (reassembler : t.link.reassembler = s.link.reassembler.reset) (inbox : t.inbox = {})

theorem Kept.refl (s : Session StreamLink S R) : Kept s s := .same rfl rfl

theorem Kept.trans {s t u : Session StreamLink S R} (h : Kept s t) (hnext : Kept t u) :
    Kept s u := by
  cases hnext with
  | same hreassembler hinbox =>
      cases h with
      | same hfirst hwaiting =>
          exact .same (hreassembler.trans hfirst) (hinbox.trans hwaiting)
      | givenUp hfirst hwaiting =>
          exact .givenUp (hreassembler.trans hfirst) (hinbox.trans hwaiting)
  | givenUp hreassembler hinbox =>
      refine .givenUp (hreassembler.trans ?_) hinbox
      cases h with
      | same hfirst => rw [hfirst]
      | givenUp hfirst => rw [hfirst, Reassembler.reset, Reassembler.reset]

theorem AtRest.kept {s t : Session StreamLink S R} (h : s.AtRest) (kept : Kept s t) : t.AtRest := by
  cases kept with
  | same hreassembler hinbox => exact h.of_eq hreassembler hinbox
  | givenUp hreassembler hinbox =>
      refine ⟨?_, hinbox⟩
      rw [hreassembler, Reassembler.reset]

theorem PartsPut.reassembler_eq {link next : StreamLink} {cipher : Option PacketCipher}
    {parts : List Bytes} {writes : List RadioOp}
    (written : PartsPut cipher link parts next writes) :
    next.reassembler = link.reassembler := by
  refine written.keep (P := fun next : StreamLink => next.reassembler = link.reassembler) ?_ rfl
  intro link next part op made h
  exact (StreamLink.reassembler_writeFrame link (StreamLink.bulkFrame part) cipher made).trans h

variable [CipherSuite] [Radio R]

theorem kept_send (s : Session StreamLink S R) (task : String) (command : Command) :
    Kept s (s.send task command).1 := by
  rcases send_cases s task command with hsend | ⟨link, op, written, hsend⟩
  · rw [hsend]
    exact .refl s
  · rw [hsend]
    exact .same (StreamLink.reassembler_writeFrame s.link _ _ written) rfl

variable [Service S]

/-- Only a refusal of the phone touches what is half-read and what waits. -/
theorem kept_react (s t : Session StreamLink S R) (reaction : Reaction s t) : Kept s t := by
  cases reaction with
  | tell => exact .same rfl rfl
  | device => exact .same rfl rfl
  | registry => exact .same rfl rfl
  | upload => exact .same rfl rfl
  | send task command => exact kept_send s task command
  | parts written => exact .same written.reassembler_eq rfl
  | submitParts _ written => exact .same written.reassembler_eq rfl
  | @answer _ reply handshake =>
      have hnext : Kept s { s with handshake := handshake } := .same rfl rfl
      exact hnext.trans (kept_send _ _ reply)
  | accept => exact .same rfl rfl
  | refuse => exact .givenUp rfl rfl

theorem Reactions.kept {s t : Session StreamLink S R} (h : Reactions s t) : Kept s t :=
  h.keep (fun t u reaction hkept => hkept.trans (kept_react t u reaction)) (.refl s)

/-! ## Frames that are heard -/

/-- The payload of a frame is handled, if it can be opened. -/
def hear (s : Session StreamLink S R) (host : HostView) (cipher : Option PacketCipher)
    (frame : Frame) : Session StreamLink S R :=
  match StreamLink.read? cipher frame.received with
  | some inbound => s.handleInbound host inbound
  | none => s

theorem foldl_filterMap_read? (host : HostView) (cipher : Option PacketCipher)
    (s : Session StreamLink S R) (frames : List Frame) :
    ((frames.map Frame.received).filterMap (StreamLink.read? cipher)).foldl
      (fun s payload => s.handleInbound host payload) s =
        frames.foldl (fun s frame => s.hear host cipher frame) s := by
  induction frames generalizing s with
  | nil => rfl
  | cons frame frames ih =>
      rw [List.map_cons, List.foldl_cons, ← ih, hear]
      cases hread : StreamLink.read? cipher frame.received with
      | none => rw [List.filterMap_cons_none hread]
      | some inbound => rw [List.filterMap_cons_some hread, List.foldl_cons]

/-- A read of whole frames is the frames heard one after the other. -/
theorem receiveNow_flatMap (s : Session StreamLink S R) (host : HostView) (frames : List Frame)
    (hbuffer : s.link.reassembler.buffer = [])
    (h : ∀ frame ∈ frames, frame.payload.length ≤ Frame.maxPayload) :
    s.receiveNow host .stream (frames.flatMap Frame.octets) =
      frames.foldl (fun t frame => t.hear host s.handshake.cipher? frame) s := by
  have hreceive : Link.receive s.link .stream (frames.flatMap Frame.octets) s.handshake.cipher? =
      (s.link, (frames.map Frame.received).filterMap (StreamLink.read? s.handshake.cipher?)) := by
    refine (StreamLink.receive_stream s.link _ _).trans ?_
    rw [Reassembler.push_flatMap_octets _ frames hbuffer h]
  rw [receiveNow, hreceive]
  exact foldl_filterMap_read? host _ s frames

/-- A read of whole frames that arrives where nothing is half-read or waiting. -/
theorem onReceive_flatMap_eq (s : Session StreamLink S R) (host : HostView) (frames : List Frame)
    (hbuffer : s.link.reassembler.buffer = []) (hchunks : s.inbox.chunks = [])
    (h : ∀ frame ∈ frames, frame.payload.length ≤ Frame.maxPayload) :
    s.onReceive host .stream (frames.flatMap Frame.octets) =
      frames.foldl (fun t frame => t.hear host s.handshake.cipher? frame)
        { s with inbox := {} } := by
  have hpending : s.processPending host = s := by
    rw [processPending, hchunks]
    rfl
  have htaken : s.inbox.takeLost = ({}, s.inbox.lost) := by
    rw [Inbox.takeLost, hchunks]
  have hresync : Link.resync s.link = s.link := by
    change { s.link with reassembler := { s.link.reassembler with buffer := [] } } = s.link
    rw [← hbuffer]
  simp only [onReceive, hpending, htaken, hresync, ite_self]
  exact receiveNow_flatMap { s with inbox := {} } host frames hbuffer h

theorem onReceive_octets_eq (s : Session StreamLink S R) (host : HostView) (frame : Frame)
    (hrest : s.AtRest) (h : frame.payload.length ≤ Frame.maxPayload) :
    s.onReceive host .stream frame.octets = s.hear host s.handshake.cipher? frame := by
  have hread := onReceive_flatMap_eq s host [frame] hrest.buffer (by rw [hrest.inbox])
    (by simpa using h)
  rw [List.flatMap_singleton, ← hrest.inbox] at hread
  exact hread

theorem reactions_hear (s : Session StreamLink S R) (host : HostView)
    (cipher : Option PacketCipher) (frame : Frame) : Reactions s (s.hear host cipher frame) := by
  rw [hear]
  split
  · exact reactions_handleInbound s host _
  · exact .refl

theorem AtRest.hear {s : Session StreamLink S R} (h : s.AtRest) (host : HostView)
    (cipher : Option PacketCipher) (frame : Frame) : (s.hear host cipher frame).AtRest :=
  h.kept (reactions_hear s host cipher frame).kept

theorem AtRest.onReceive {s : Session StreamLink S R} (h : s.AtRest) (host : HostView)
    {frame : Frame} (hsize : frame.payload.length ≤ Frame.maxPayload) :
    (s.onReceive host .stream frame.octets).AtRest := by
  rw [onReceive_octets_eq s host frame h hsize]
  exact h.hear host _ frame

end WatchLink.Session
