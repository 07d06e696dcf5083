import WatchLink.Proofs.Session.Connecting
import WatchLink.Proofs.Session.Reporting
import WatchLink.Proofs.Session.Standing

/-!
# What a new connection starts with

Connecting gives up whatever there was of a connection, except from a session that is not connected,
where it takes that for done. Of the upload, the installation and the keys that is so: only a
connection can have them, so there are none left. Of what comes in it is not. A session that is not
connected takes reads into its inbox, puts frames together and lets services tell of being busy as
any other does, and all of that is found again once it has connected.
-/

namespace WatchLink.Session

open Settling

section

variable {L S R : Type} [CipherSuite] [Link L] [Service S] [Radio R]

/-! ## What is given up -/

/-- An act leaves the state as it is, opens it, or ends the connection and all that goes on. -/
theorem state_act {s t : Session L S R} (act : Act s t) (heeded : s.Heeded) :
    t.state = s.state ∨ t.state = .initialized ∨
      (t.upload = {} ∧ t.device.install = .idle) := by
  cases act with
  | acknowledge ack => exact .inl (uploaded_ack heeded ack).standing.2
  | inbox => exact .inl rfl
  | receive => exact .inl rfl
  | resync => exact .inl rfl
  | deed deed =>
      cases deed with
      | tell => exact .inl rfl
      | device => exact .inl rfl
      | registry => exact .inl rfl
      | send => exact .inl (state_send _ _ _)
      | startUpload request => exact .inl (standing_startUpload s request).2
      | agree => exact .inl (standing_startUpload _ _).2
      | decline => exact .inl rfl
      | command handled => exact .inl (uploaded_command heeded handled).standing.2
      | answer => exact .inl (state_send _ _ _)
      | accept => exact .inr (.inl rfl)
      | refuse => exact .inr (.inr ⟨rfl, rfl⟩)

variable [Settling L]

/-- There is no connection, and none is being made. -/
def Away (s : Session L S R) : Prop := s.state ≠ .initialized ∧ s.state ≠ .initializing

/-- Nothing that comes in or is asked for brings a connection about. -/
theorem away_move (s t : Session L S R) (move : Move s t) (h : s.Staged ∧ s.Away) :
    t.Staged ∧ t.Away := by
  obtain ⟨staged, away⟩ := h
  refine ⟨staged_move s t move staged, ?_⟩
  have hawaits (awaits : s.handshake.state.awaits = true) : False :=
    away.2 (staged.initializing_iff.2 awaits)
  cases move with
  | inbox => exact away
  | receive => exact away
  | resync => exact away
  | react reaction =>
      cases reaction with
      | tell => exact away
      | device => exact away
      | registry => exact away
      | upload => exact away
      | send task command =>
          rw [Away, state_send]
          exact away
      | parts => exact away
      | submitParts => exact away
      | answer handled => exact (hawaits (Handshake.awaits_of_send handled).1).elim
      | accept handled => exact (hawaits (Handshake.awaits_of_authenticated handled)).elim
      | refuse => exact ⟨nofun, nofun⟩

omit [Service S] [Radio R] in
theorem Staged.unwritable {s : Session L S R} (h : s.Staged) (away : s.Away) {command : Command}
    (hkind : command.kind ≠ Command.authKind) :
    ∃ e, (Link.writeCommand s.link command s.handshake.cipher?).Fails s.link e := by
  obtain ⟨-, hkeys, hmode⟩ := h.at_rest away.1 away.2
  have hcipher : s.handshake.cipher? = none := by
    rw [Handshake.cipher?, Option.map_eq_none_iff]
    exact Option.not_isSome_iff_eq_none.1 (by rw [hkeys]; exact Bool.false_ne_true)
  rw [hcipher]
  exact closed hmode hkind

/-- Nothing is installed but over an authenticated connection, and nothing uploaded but over one
that is there or being made. -/
structure Tied (s : Session L S R) : Prop where
  install : s.state ≠ .initialized → s.device.install = .idle
  upload : s.Away → s.upload = {}

theorem upload_act {s t : Session L S R} (act : Act s t) (heeded : s.Heeded) (staged : s.Staged)
    (away : s.Away) (h : s.upload = {}) : t.upload = {} := by
  cases uploadMoved act heeded with
  | same upload => exact upload.trans h
  | ended upload => exact upload
  | requested kind file _ took =>
      -- Its request was written on the way, and there it cannot be.
      obtain ⟨u, hthere, link, op, hwritten, -⟩ := took
      obtain ⟨hstaged, haway⟩ := hthere.keep away_move ⟨staged, away⟩
      have hkind : Command.uploadKind ≠ Command.authKind := by decide
      have hrequest : (uploadRequest kind file).kind ≠ Command.authKind := hkind
      obtain ⟨e, hrefused⟩ := hstaged.unwritable haway hrequest
      exact absurd hrefused hwritten.not_fails
  | wrote running =>
      rw [h] at running
      cases running

theorem tied_act (s t : Session L S R) (act : Act s t) (h : s.Heeded ∧ s.Staged ∧ s.Tied) :
    t.Heeded ∧ t.Staged ∧ t.Tied := by
  obtain ⟨heeded, staged, tied⟩ := h
  refine ⟨heeded.act s t act, (Acts.moves (.single act)).keep staged_move staged, ?_⟩
  rcases state_act act heeded with hstate | hopened | ⟨hnothing, hidle⟩
  · have haway (away : t.Away) : s.Away := by
      rw [Away, ← hstate]
      exact away
    exact
      { install := fun hclosed => Acts.idle (.single act) heeded (tied.install (hstate ▸ hclosed))
        upload := fun away =>
          upload_act act heeded staged (haway away) (tied.upload (haway away)) }
  · exact ⟨fun hclosed => absurd hopened hclosed, fun away => absurd hopened away.1⟩
  · exact ⟨fun _ => hidle, fun _ => hnothing⟩

omit [CipherSuite] [Radio R] [Settling L] in
/-- Whoever connects has nothing going on. -/
theorem Tied.ready {s : Session L S R} (h : s.Tied) :
    s.ready.device.install = .idle ∧ s.ready.upload = {} := by
  rcases s.ready_cases with ⟨hstate, hready⟩ | hready
  · rw [hready]
    exact ⟨h.install (by rw [hstate]; nofun),
      h.upload ⟨by rw [hstate]; nofun, by rw [hstate]; nofun⟩⟩
  · rw [hready]
    exact ⟨rfl, rfl⟩

omit [CipherSuite] [Settling L] in
theorem Tied.connect {s : Session L S R} (h : s.Tied) (discovery : Discovery) (nonce : Octets 16) :
    (s.connect discovery nonce).1.Tied := by
  obtain ⟨hidle, hnothing⟩ := h.ready
  have hconnected := s.connected discovery nonce
  generalize (s.connect discovery nonce).1 = t at hconnected ⊢
  cases hconnected with
  | unbound => exact ⟨fun _ => hidle, fun _ => hnothing⟩
  | unwritten => exact ⟨fun _ => rfl, fun _ => rfl⟩
  | refused => exact ⟨fun _ => rfl, fun _ => rfl⟩
  | greeted => exact ⟨fun _ => hidle, fun _ => hnothing⟩

theorem Tied.perform {s : Session L S R} (h : s.Tied) (heeded : s.Heeded) (staged : s.Staged)
    (call : HostCall S R) : (s.perform call).1.Tied := by
  have hacts {t : Session L S R} (acts : Acts s t) : t.Tied :=
    (acts.keep tied_act ⟨heeded, staged, h⟩).2.2
  have hhappened := s.happened call
  generalize (s.perform call).1 = t at hhappened ⊢
  generalize s.moments call = moments at hhappened
  cases hhappened with
  | connect discovery nonce => exact h.connect discovery nonce
  | disconnect => exact ⟨fun _ => rfl, fun _ => rfl⟩
  | mtuChanged => exact ⟨h.install, h.upload⟩
  | radio => exact ⟨h.install, h.upload⟩
  | sendIn => exact ⟨h.install, h.upload⟩
  | register => exact ⟨h.install, h.upload⟩
  | @install image opened _ =>
      have hopened : (s.requested image).state = .initialized := (state_send _ _ _).trans opened
      exact ⟨fun hclosed => absurd hopened hclosed, fun away => absurd hopened away.1⟩
  | inbox => exact ⟨h.install, h.upload⟩
  | deeds deeds => exact hacts deeds.acts
  | processPending host => exact hacts (acts_processAtMost host _ s)
  | receive host endpoint data => exact hacts (acts_onReceive s host endpoint data)

theorem Tied.run {s : Session L S R} (h : s.Tied) (hs : s.Reachable) (staged : s.Staged)
    (calls : List (HostCall S R)) : (s.run calls).Tied := by
  have hkept : (s.run calls).Reachable ∧ (s.run calls).Staged ∧ (s.run calls).Tied := by
    refine run_keep (P := fun t => t.Reachable ∧ t.Staged ∧ t.Tied) calls ⟨hs, staged, h⟩ ?_
    rintro t ⟨hreachable, hstaged, htied⟩ call -
    have hclear : t.clearEffects.Tied := ⟨htied.install, htied.upload⟩
    have hheeded : t.clearEffects.Heeded := hreachable.heeded
    have hstage : t.clearEffects.Staged := hstaged
    exact ⟨hreachable.perform call, hstage.perform call, hclear.perform hheeded hstage call⟩
  exact hkept.2.2

omit [CipherSuite] [Radio R] [Settling L] [Link L] [Service S] in
theorem tied_ofConfig {link : L} {radio : R} {config : LinkConfig} {capabilities : Capabilities}
    {s : Session L S R} (hs : ofConfig link radio config capabilities = .ok s) : s.Tied := by
  obtain ⟨secret, rfl⟩ := eq_of_ofConfig hs
  exact ⟨fun _ => rfl, fun _ => rfl⟩

/-! ## What a new connection has -/

omit [CipherSuite] [Settling L] in
/-- Connecting has come about when the hello was taken. -/
theorem greeted_of_ok {s : Session L S R} {discovery : Discovery} {nonce : Octets 16}
    (h : (s.connect discovery nonce).2 = .ok ()) :
    ∃ link mode next op, Link.bind s.ready.link discovery = (link, .ok mode) ∧
      (Link.writeCommand (Link.resetCounters link)
        (s.ready.handshake.start mode nonce).2 none).Puts next op ∧
      (s.saidHello (Link.resetCounters link) next mode nonce op).2 = .ok () ∧
      (s.connect discovery nonce).1 =
        (s.saidHello (Link.resetCounters link) next mode nonce op).1.setState .initializing := by
  have hstate : (s.connect discovery nonce).1.state = .initializing := by
    simp only [connect] at h ⊢
    split at h
    · cases h
    · cases h
    · split at h
      · cases h
      · split at h
        · rfl
        · cases h
  have hconnected := s.connected discovery nonce
  generalize (s.connect discovery nonce).1 = t at hconnected hstate ⊢
  cases hconnected with
  | unbound _ given => rcases given with rfl | rfl <;> cases hstate
  | unwritten => cases hstate
  | refused => cases hstate
  | greeted bound written taken => exact ⟨_, _, _, _, bound, written, taken, rfl⟩

/-- What a session that has connected starts with. The upload, the installation, the status of the
watch and the keys are as new, and all that was written is the hello, in one transaction. What waits
to be handled and what the host was told of being busy is as new unless the session was not
connected before; then it is what was found. -/
structure Renewed (discovery : Discovery) (nonce : Octets 16) (s t : Session L S R) : Prop where
  upload : t.upload = {}
  install : t.device.install = .idle
  status : t.device.battery = .unknown ∧ t.device.wearing = .unknown ∧ t.device.sleep = .unknown
  cipher : t.handshake.cipher? = none
  hello : ∃ link mode op, Link.bind s.ready.link discovery = (link, .ok mode) ∧
    (Link.writeCommand (Link.resetCounters link)
      (s.ready.handshake.start mode nonce).2 none).Puts t.link op ∧
    t.effects = [.told (.connectionState .initializing),
      .submitted ⟨"initialize", Link.startup (Link.resetCounters link) ++ [op]⟩,
      .told (.connectionState .connecting)] ++ s.effects
  cleared : s.state ≠ .notConnected →
    t.inbox = .empty ∧ t.busy = none ∧ s.ready.link = Link.teardown s.link
  found : s.state = .notConnected →
    t.inbox = s.inbox ∧ t.busy = s.busy ∧ s.ready.link = s.link

omit [Settling L] in
theorem renewed_of_ok {s : Session L S R} (tied : s.Tied) {discovery : Discovery}
    {nonce : Octets 16} (h : (s.connect discovery nonce).2 = .ok ()) :
    Renewed discovery nonce s (s.connect discovery nonce).1 := by
  obtain ⟨link, mode, next, op, bound, written, taken, heq⟩ := greeted_of_ok h
  rw [heq]
  have hsubmitted : (s.saidHello (Link.resetCounters link) next mode nonce op).1.effects =
      .submitted ⟨"initialize", Link.startup (Link.resetCounters link) ++ [op]⟩ ::
        s.ready.effects := by
    simp only [saidHello, submit] at taken ⊢
    rw [taken]
    rfl
  exact
    { upload := tied.ready.2
      install := tied.ready.1
      status := ⟨rfl, rfl, rfl⟩
      cipher := by
        change ((s.ready.handshake.start mode nonce).1).cipher? = none
        cases mode <;> rfl
      hello := by
        refine ⟨link, mode, op, bound, written, ?_⟩
        change .told (.connectionState .initializing) ::
          (s.saidHello (Link.resetCounters link) next mode nonce op).1.effects = _
        rw [hsubmitted, effects_ready]
        rfl
      cleared := fun hstate => by
        have hready : s.ready = s.resetConnection.setState .connecting := by
          rw [ready, if_neg hstate]
        rw [hready]
        change (s.ready).inbox = _ ∧ s.ready.busy = _ ∧ _
        rw [hready]
        exact ⟨rfl, rfl, rfl⟩
      found := fun hstate => by
        have hready : s.ready = s.setState .connecting := by
          rw [ready, if_pos hstate]
        change (s.ready).inbox = _ ∧ s.ready.busy = _ ∧ _
        rw [hready]
        exact ⟨rfl, rfl, rfl⟩ }

end

/-! ## Over either link -/

section

variable {S R : Type} [CipherSuite] [Service S] [Radio R]

omit [Radio R] in
/-- Over a stream the hello is a frame that nothing was sealed for. -/
theorem Renewed.link_stream {s t : Session StreamLink S R} {discovery : Discovery}
    {nonce : Octets 16} (h : Renewed discovery nonce s t) :
    t.link = { s.ready.link with serial := 1, counter := 0 } := by
  obtain ⟨link, mode, op, bound, written, -⟩ := h.hello
  cases bound
  have hunsealed := StreamLink.writeFrame_of_unsealed s.ready.link.resetCounters
    (.command 0 .auth (Session.hello nonce).toBytes) none nofun
  have hwritten : (s.ready.link.resetCounters.writeFrame
      (.command 0 .auth (Session.hello nonce).toBytes) none).Puts t.link op := written
  exact (hwritten.inj hunsealed).1

omit [Radio R] in
/-- Over characteristics the hello is a value that nothing was sealed for. -/
theorem Renewed.bound_gatt {s t : Session GattLink S R} {discovery : Discovery}
    {nonce : Octets 16} (h : Renewed discovery nonce s t) :
    ∃ template, t.link.bound = some (.ofTemplate template) := by
  obtain ⟨link, mode, op, bound, written, -⟩ := h.hello
  have hbound : s.ready.link.bind discovery = (link, .ok mode) := bound
  rw [GattLink.bind] at hbound
  split at hbound
  · rename_i template _
    cases hbound
    refine ⟨template, ?_⟩
    obtain ⟨b, r, value, hb, hencode, hnext, -⟩ := GattLink.writeCommand_cases written
    obtain rfl : BoundResources.ofTemplate template = b := Option.some.inj hb
    have hclear : (BoundResources.ofTemplate template).commandWrite.cipherFor none = none := by
      rw [Resource.cipherFor]
      split <;> rfl
    rcases GattLink.encode_cases hencode with ⟨-, rfl, -⟩ | ⟨c, tail, hsome, -⟩
    · rw [hnext]
    · rw [hclear] at hsome
      cases hsome
  · cases hbound

/-- A session that has connected starts with nothing of a connection before, over either link, and
its counters have served the hello only. Bytes that came in before are gone as well, unless the
session was not connected when it connected: then all of them are still there. -/
theorem renewed_connect {radio : R} {config : LinkConfig} {capabilities : Capabilities}
    (discovery : Discovery) (nonce : Octets 16) :
    (∀ (link : StreamLink) (start : Session StreamLink S R),
      ofConfig link radio config capabilities = .ok start → ∀ calls,
      ((start.run calls).connect discovery nonce).2 = .ok () →
        Renewed discovery nonce (start.run calls)
          ((start.run calls).connect discovery nonce).1 ∧
        ((start.run calls).connect discovery nonce).1.link.serial = 1 ∧
        ((start.run calls).connect discovery nonce).1.link.counter = 0 ∧
        ((start.run calls).state ≠ .notConnected →
          ((start.run calls).connect discovery nonce).1.link.reassembler.buffer = []) ∧
        ((start.run calls).state = .notConnected →
          ((start.run calls).connect discovery nonce).1.link.reassembler =
            (start.run calls).link.reassembler)) ∧
    ∀ (link : GattLink) (start : Session GattLink S R), link.bound = none →
      ofConfig link radio config capabilities = .ok start → ∀ calls,
      ((start.run calls).connect discovery nonce).2 = .ok () →
        Renewed discovery nonce (start.run calls)
          ((start.run calls).connect discovery nonce).1 ∧
        ∃ template,
          ((start.run calls).connect discovery nonce).1.link.bound =
            some (.ofTemplate template) := by
  constructor
  · intro link start hstart calls hok
    have hstaged : start.Staged := staged_ofConfig hstart rfl
    have htied := (tied_ofConfig hstart).run (.ofConfig hstart) hstaged calls
    have hrenewed := renewed_of_ok htied hok
    refine ⟨hrenewed, ?_, ?_, ?_, ?_⟩
    · rw [hrenewed.link_stream]
    · rw [hrenewed.link_stream]
    · intro hstate
      rw [hrenewed.link_stream, (hrenewed.cleared hstate).2.2]
      rfl
    · intro hstate
      rw [hrenewed.link_stream, (hrenewed.found hstate).2.2]
  · intro link start hlink hstart calls hok
    have hunsettled : mode? link = none := Option.map_eq_none_iff.2 hlink
    have hstaged : start.Staged := staged_ofConfig hstart hunsettled
    have htied := (tied_ofConfig hstart).run (.ofConfig hstart) hstaged calls
    have hrenewed := renewed_of_ok htied hok
    exact ⟨hrenewed, hrenewed.bound_gatt⟩

end

/-! ## Half a frame before the connection -/

/-- The first octets of a frame come in, and the host has not connected. -/
def halfRead : List (HostCall DeviceService RadioQueue) :=
  [.receive bareHost .stream [0xBA, 0xDC, 0xFE, 0x02]]

/-- The watch reports activity. -/
def plainActivity : Frame :=
  { StreamLink.bulkFrame [1, 2, 3] with channel := .fitness }

/-- A watch is asked to connect with half a frame there, and a watch of the clear-text layout with
none: both start with what they must, but the one still has its half frame. -/
theorem renewed_connect_halfRead :
    ((streamStart.run halfRead).connect clearTextWatch (.zero 16)).2 = .ok () ∧
    Renewed clearTextWatch (.zero 16) (streamStart.run halfRead)
      ((streamStart.run halfRead).connect clearTextWatch (.zero 16)).1 ∧
    ((streamStart.run halfRead).connect clearTextWatch (.zero 16)).1.link.reassembler =
      (streamStart.run halfRead).link.reassembler ∧
    ((clearTextStart.run []).connect clearTextWatch (.zero 16)).2 = .ok () ∧
    Renewed clearTextWatch (.zero 16) (clearTextStart.run [])
      ((clearTextStart.run []).connect clearTextWatch (.zero 16)).1 := by
  have hstream : ((streamStart.run halfRead).connect clearTextWatch (.zero 16)).2 = .ok () := by
    decide +kernel
  have hgatt : ((clearTextStart.run []).connect clearTextWatch (.zero 16)).2 = .ok () := by
    decide +kernel
  have hstart : ofConfig {} {} bareConfig {} = .ok streamStart := rfl
  obtain ⟨renewed, -, -, -, hfound⟩ :=
    (renewed_connect clearTextWatch (.zero 16)).1 {} streamStart hstart halfRead hstream
  have hclosed : (streamStart.run halfRead).state = .notConnected := rfl
  exact ⟨hstream, renewed, hfound hclosed, hgatt,
    ((renewed_connect clearTextWatch (.zero 16)).2 {} clearTextStart rfl ofConfig_clearTextStart []
      hgatt).1⟩

/-- What came in before is there when the session has connected, and the first frame of the watch is
lost in it. -/
theorem connect_halfRead :
    ofConfig {} {} bareConfig {} = .ok streamStart ∧
    ((streamStart.run halfRead).connect {} (.zero 16)).2 = .ok () ∧
    ((streamStart.run halfRead).connect {} (.zero 16)).1.link.reassembler.buffer =
      [0xBA, 0xDC, 0xFE, 0x02] ∧
    (streamStart.run (halfRead ++ [.connect {} (.zero 16), frameFromWatch plainActivity])).events =
      [] ∧
    (streamStart.run [.connect {} (.zero 16), frameFromWatch plainActivity]).events =
      [.activityData [1, 2, 3]] := by
  refine ⟨rfl, ?_, ?_, ?_, ?_⟩
  all_goals decide +kernel

end WatchLink.Session
