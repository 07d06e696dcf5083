import WatchLink.Link.Stream
import WatchLink.Proofs.Link.Settling
import WatchLink.Proofs.Session.Telling

/-!
# Where a connection stands

How a connection stands is kept in several places: the session's state, the handshake, its keys, and
what the link has settled on. `Stage` lists the few combinations that occur between calls, and in
between payloads as well. Every move keeps a session on one of them and so does every call, whatever
the radio refuses and whatever comes in. What a host may conclude from the state is read off the
list.
-/

namespace WatchLink

/-- How a connection stands, where its handshake stands, whether it has keys, and what its link has
settled on. -/
inductive Stage (unsettled : Option HandshakeMode) :
    ConnectionState → HandshakeState → Bool → Option HandshakeMode → Prop
  | notConnected : Stage unsettled .notConnected .idle false unsettled
  | waitingForReconnect : Stage unsettled .waitingForReconnect .idle false unsettled
  | nonceSent (nonce : Octets 16) :
      Stage unsettled .initializing (.awaitingWatchNonce nonce) false (some .encrypted)
  | proofSent : Stage unsettled .initializing .awaitingAuthResult false (some .encrypted)
  | userIdSent : Stage unsettled .initializing .awaitingUserIdAck false (some .clearText)
  | encrypted : Stage unsettled .initialized .authenticated true (some .encrypted)
  | clearText : Stage unsettled .initialized .authenticated false (some .clearText)

namespace Stage

variable {unsettled mode : Option HandshakeMode} {state : ConnectionState}
  {handshake : HandshakeState} {keyed : Bool}

theorem of_awaitingWatchNonce {nonce : Octets 16}
    (h : Stage unsettled state (.awaitingWatchNonce nonce) keyed mode) :
    state = .initializing ∧ keyed = false ∧ mode = some .encrypted := by
  cases h
  exact ⟨rfl, rfl, rfl⟩

theorem of_awaitingAuthResult (h : Stage unsettled state .awaitingAuthResult keyed mode) :
    mode = some .encrypted := by
  cases h
  rfl

theorem of_awaitingUserIdAck (h : Stage unsettled state .awaitingUserIdAck keyed mode) :
    keyed = false ∧ mode = some .clearText := by
  cases h
  exact ⟨rfl, rfl⟩

theorem initialized_iff (h : Stage unsettled state handshake keyed mode) :
    state = .initialized ↔ handshake = .authenticated := by
  cases h <;> simp

theorem initializing_iff (h : Stage unsettled state handshake keyed mode) :
    state = .initializing ↔ handshake.awaits = true := by
  cases h <;> simp [HandshakeState.awaits]

/-- A connection that is not being made has nothing left of one. -/
theorem at_rest (h : Stage unsettled state handshake keyed mode) (hclosed : state ≠ .initialized)
    (hquiet : state ≠ .initializing) : handshake = .idle ∧ keyed = false ∧ mode = unsettled := by
  cases h with
  | notConnected => exact ⟨rfl, rfl, rfl⟩
  | waitingForReconnect => exact ⟨rfl, rfl, rfl⟩
  | nonceSent => exact absurd rfl hquiet
  | proofSent => exact absurd rfl hquiet
  | userIdSent => exact absurd rfl hquiet
  | encrypted => exact absurd rfl hclosed
  | clearText => exact absurd rfl hclosed

theorem of_keyed (h : Stage unsettled state handshake true mode) :
    state = .initialized ∧ mode = some .encrypted := by
  cases h
  exact ⟨rfl, rfl⟩

theorem isSome_iff (h : Stage none state handshake keyed mode) :
    mode.isSome = true ↔ state = .initializing ∨ state = .initialized := by
  cases h <;> simp

end Stage

theorem HandshakeState.awaits_iff (h : HandshakeState) :
    h.awaits = true ↔ (∃ nonce, h = .awaitingWatchNonce nonce) ∨ h = .awaitingUserIdAck ∨
      h = .awaitingAuthResult := by
  cases h <;> simp [awaits]

namespace Session

open Settling

section

variable {L S R : Type} [CipherSuite] [Link L] [Settling L] [Service S] [Radio R]

/-- A session is on one of the stages of a connection. -/
def Staged (s : Session L S R) : Prop :=
  Stage (unsettled (L := L)) s.state s.handshake.state s.handshake.keys?.isSome (mode? s.link)

/-! ## What goes on -/

omit [Service S] in
theorem mode?_send (s : Session L S R) (task : String) (command : Command) :
    mode? (s.send task command).1.link = mode? s.link := by
  rcases send_cases s task command with h | ⟨link, op, written, h⟩
  · rw [h]
  · rw [h]
    exact mode?_writeCommand written

omit [CipherSuite] in
theorem mode?_of_partsPut {link next : L} {cipher : Option PacketCipher} {parts : List Bytes}
    {writes : List RadioOp} (written : PartsPut cipher link parts next writes) :
    mode? next = mode? link :=
  written.keep (P := fun next => mode? next = mode? link)
    (fun _ _ _ _ made h => (mode?_writeBulk made).trans h) rfl

omit [CipherSuite] [Service S] [Radio R] in
/-- Only these four parts matter. -/
theorem Staged.of_eq {s t : Session L S R} (h : s.Staged) (state : t.state = s.state)
    (handshake : t.handshake = s.handshake) (mode : mode? t.link = mode? s.link) : t.Staged := by
  rw [Staged, state, handshake, mode]
  exact h

omit [Service S] in
theorem Staged.send {s : Session L S R} (h : s.Staged) (task : String) (command : Command) :
    (s.send task command).1.Staged :=
  h.of_eq (state_send s task command) (handshake_send s task command) (mode?_send s task command)

omit [CipherSuite] [Radio R] in
theorem staged_disconnected (s : Session L S R) :
    (s.resetConnection.setState .notConnected).Staged := by
  rw [Staged]
  change Stage _ _ _ _ (mode? (Link.teardown s.link))
  rw [mode?_teardown]
  exact .notConnected

theorem staged_react (s t : Session L S R) (reaction : Reaction s t) (h : s.Staged) :
    t.Staged := by
  cases reaction with
  | tell => exact h
  | device => exact h
  | registry => exact h
  | upload => exact h
  | send task command => exact h.send task command
  | parts written => exact h.of_eq rfl rfl (mode?_of_partsPut written)
  | submitParts progress written => exact h.of_eq rfl rfl (mode?_of_partsPut written)
  | @answer command reply handshake handled =>
      obtain ⟨⟨nonce, hawaited⟩, hkeys⟩ := Handshake.awaited_of_send handled
      have hstage := h
      rw [Staged, hawaited] at hstage
      obtain ⟨hstate, hkeyed, hmode⟩ := hstage.of_awaitingWatchNonce
      have hproof : Staged { s with handshake := handshake } := by
        rw [Staged, hstate, Handshake.state_of_send handled, hkeys, hkeyed, hmode]
        exact .proofSent
      exact hproof.send "auth step" reply
  | @accept command handshake handled =>
      rw [Staged]
      change Stage _ .initialized handshake.state handshake.keys?.isSome
        (mode? (Link.resetCounters s.link))
      rw [mode?_resetCounters, Handshake.state_of_authenticated handled]
      rcases Handshake.awaited_of_authenticated handled with ⟨hawaited, hkeys⟩ | ⟨hawaited, hkeys⟩
      · rw [Staged, hawaited] at h
        rw [hkeys, h.of_awaitingAuthResult]
        exact .encrypted
      · rw [Staged, hawaited] at h
        obtain ⟨hkeyed, hmode⟩ := h.of_awaitingUserIdAck
        rw [hkeys, hkeyed, hmode]
        exact .clearText
  | refuse => exact staged_disconnected _

theorem staged_move (s t : Session L S R) (move : Move s t) (h : s.Staged) : t.Staged := by
  cases move with
  | react reaction => exact staged_react s t reaction h
  | inbox => exact h
  | receive => exact h.of_eq rfl rfl (mode?_receive _ _ _ _)
  | resync => exact h.of_eq rfl rfl (mode?_resync _)

/-! ## What starts and ends a connection -/

omit [CipherSuite] [Radio R] in
/-- Whoever connects has nothing left of a connection. -/
theorem Staged.ready {s : Session L S R} (h : s.Staged) :
    s.ready.handshake.state = .idle ∧ s.ready.handshake.keys?.isSome = false ∧
      mode? s.ready.link = unsettled (L := L) := by
  rcases s.ready_cases with ⟨hstate, hready⟩ | hready
  · rw [hready]
    exact h.at_rest (by rw [hstate]; nofun) (by rw [hstate]; nofun)
  · rw [hready]
    exact ⟨rfl, rfl, mode?_teardown s.link⟩

omit [CipherSuite] in
theorem staged_start (h : Handshake) (unsettled : Option HandshakeMode) (mode : HandshakeMode)
    (nonce : Octets 16) :
    Stage unsettled .initializing (h.start mode nonce).1.state
      (h.start mode nonce).1.keys?.isSome (some mode) := by
  cases mode with
  | encrypted => exact .nonceSent nonce
  | clearText => exact .userIdSent

omit [CipherSuite] in
theorem Staged.connect {s : Session L S R} (h : s.Staged) (discovery : Discovery)
    (nonce : Octets 16) : (s.connect discovery nonce).1.Staged := by
  obtain ⟨hidle, hkeys, -⟩ := h.ready
  have hconnected := s.connected discovery nonce
  generalize (s.connect discovery nonce).1 = t at hconnected ⊢
  cases hconnected with
  | @unbound link e state bound given =>
      rw [Staged]
      change Stage _ state s.ready.handshake.state s.ready.handshake.keys?.isSome (mode? link)
      rw [hidle, hkeys, mode?_of_bind_error bound]
      rcases given with rfl | rfl
      · exact .notConnected
      · exact .waitingForReconnect
  | unwritten => exact staged_disconnected _
  | refused => exact staged_disconnected _
  | @greeted link next mode op bound written taken =>
      rw [Staged]
      change Stage _ .initializing (s.ready.handshake.start mode nonce).1.state
        (s.ready.handshake.start mode nonce).1.keys?.isSome (mode? next)
      rw [mode?_writeCommand written, mode?_resetCounters, mode?_of_bind bound]
      exact staged_start _ _ mode nonce

theorem Staged.perform {s : Session L S R} (h : s.Staged) (call : HostCall S R) :
    (s.perform call).1.Staged := by
  have hperformed := s.performed call
  generalize s.perform call = result at hperformed ⊢
  cases hperformed with
  | connect discovery nonce => exact h.connect discovery nonce
  | disconnect => exact staged_disconnected s
  | mtuChanged mtu => exact h.of_eq rfl rfl (mode?_setMtu s.link mtu)
  | radio => exact h
  | register => exact h
  | sendIn written => exact h.of_eq rfl rfl (mode?_writeCommand written)
  | moved moves => exact moves.keep staged_move h

theorem Staged.run {s : Session L S R} (h : s.Staged) (calls : List (HostCall S R)) :
    (s.run calls).Staged := by
  refine run_keep calls h fun t hstaged call _ => ?_
  have hclear : t.clearEffects.Staged := hstaged
  exact hclear.perform call

omit [CipherSuite] [Service S] [Radio R] in
theorem staged_ofConfig {link : L} {radio : R} {config : LinkConfig} {capabilities : Capabilities}
    {s : Session L S R} (hs : ofConfig link radio config capabilities = .ok s)
    (hlink : mode? link = unsettled (L := L)) : s.Staged := by
  obtain ⟨secret, rfl⟩ := eq_of_ofConfig hs
  rw [Staged]
  change Stage _ .notConnected .idle false (mode? link)
  rw [hlink]
  exact .notConnected

/-! ## What a host may conclude -/

/-- Whatever needs an authenticated connection is refused, and nothing is done about it. -/
structure Refuses (s : Session L S R) : Prop where
  installFirmware (image : FirmwareImage) :
    s.installFirmware image = (s, .error (.link .notConnected))
  sendConfiguration (host : HostView) (key : String) : s.sendConfiguration host key = (s, false)
  setCurrentTime (host : HostView) : s.setCurrentTime host = (s, .error .notConnected)
  findPhoneStop : s.findPhoneStop = (s, .error .notConnected)
  findWatch (start : Bool) : s.findWatch start = (s, .error .notConnected)
  setVibration (type : String) (preset : UInt32) :
    s.setVibration type preset = (s, .error .notConnected)

omit [Settling L] in
theorem refuses {s : Session L S R} (h : s.state ≠ .initialized) : s.Refuses := by
  have hclosed : s.isInitialized = false := decide_eq_false h
  have hrequest (out : Except LinkError Outbox) : s.request out = (s, .error .notConnected) := by
    simp [request, hclosed]
  exact
    { installFirmware := fun image => by simp [Session.installFirmware, hclosed]
      sendConfiguration := fun host key => by simp [Session.sendConfiguration, hclosed]
      setCurrentTime := fun host => hrequest _
      findPhoneStop := hrequest _
      findWatch := fun start => hrequest _
      setVibration := fun type preset => hrequest _ }

/-- The parts of a session go with the state it is in. -/
structure InStep (s : Session L S R) : Prop where
  initialized : s.state = .initialized ↔ s.handshake.state = .authenticated
  initializing : s.state = .initializing ↔
    (∃ nonce, s.handshake.state = .awaitingWatchNonce nonce) ∨
      s.handshake.state = .awaitingUserIdAck ∨ s.handshake.state = .awaitingAuthResult
  idle : s.state ≠ .initialized → s.state ≠ .initializing → s.handshake.state = .idle
  cipher : s.handshake.cipher?.isSome = true →
    s.state = .initialized ∧ mode? s.link = some .encrypted
  refuses : s.state ≠ .initialized → s.Refuses

theorem Staged.inStep {s : Session L S R} (h : s.Staged) : s.InStep where
  initialized := h.initialized_iff
  initializing := h.initializing_iff.trans (HandshakeState.awaits_iff _)
  idle hclosed hquiet := (h.at_rest hclosed hquiet).1
  cipher hcipher := by
    rw [Handshake.cipher?, Option.isSome_map] at hcipher
    rw [Staged, hcipher] at h
    exact h.of_keyed
  refuses := Session.refuses

/-- The state that the host was told last in these calls; a new session has told none and is not
connected. -/
def lastTold (start : Session L S R) (calls : List (HostCall S R)) : ConnectionState :=
  ConnectionState.after .notConnected ((start.record calls).filterMap Moment.event?)

/-- The host was told how the connection stands. Services that it adds tell what they like, so the
state told last is the session's as long as these leave states to the session; and another one can
only be one that such a service tells. -/
structure ToldInStep (start : Session L S R) (calls : List (HostCall S R)) : Prop where
  discreet (quiet : ∀ service, .register service ∈ calls →
      ∀ out, Service.Fills S out → out.TellsNoState) :
    start.lastTold calls = (start.run calls).state
  aided : start.lastTold calls = (start.run calls).state ∨
    (∃ service, .register service ∈ calls) ∧
      ∃ out, Service.Fills S out ∧ .connectionState (start.lastTold calls) ∈ out.events

omit [Settling L] in
theorem toldInStep {start : Session L S R} {link : L} {radio : R} {config : LinkConfig}
    {capabilities : Capabilities} (hstart : ofConfig link radio config capabilities = .ok start)
    (calls : List (HostCall S R)) : start.ToldInStep calls := by
  have hadded : (start.run calls).Hosts fun _ => ∃ service, .register service ∈ calls :=
    (hosts_ofConfig hstart).run calls fun service hmem _ _ => ⟨service, hmem⟩
  have haided : start.lastTold calls = (start.run calls).state ∨
      (∃ service, .register service ∈ calls) ∧
        ∃ out, Service.Fills S out ∧ .connectionState (start.lastTold calls) ∈ out.events := by
    rcases names_run hstart calls with hown | ⟨hservices, out, hfills, hmem⟩
    · exact .inl hown
    · exact .inr ⟨hadded hservices out hfills, out, hfills, hmem⟩
  refine ⟨fun quiet => haided.resolve_right ?_, haided⟩
  rintro ⟨⟨service, hmem⟩, out, hfills, htold⟩
  cases quiet service hmem out hfills _ htold

end

section

variable {S R : Type} [CipherSuite] [Service S] [Radio R]

/-- After every run the parts of a session go with its state, over a stream and over
characteristics; over the latter they are bound just while there is a connection or one is being
made, and keys go with an encrypted layout. The state that the host was told last is the one the
session is in, unless a service of the host's own tells it of another. -/
theorem inStep_run {radio : R} {config : LinkConfig} {capabilities : Capabilities} :
    (∀ (link : StreamLink) (start : Session StreamLink S R),
      ofConfig link radio config capabilities = .ok start → ∀ calls,
        (start.run calls).InStep ∧ start.ToldInStep calls) ∧
    ∀ (link : GattLink) (start : Session GattLink S R), link.bound = none →
      ofConfig link radio config capabilities = .ok start → ∀ calls,
        (start.run calls).InStep ∧ start.ToldInStep calls ∧
        ((start.run calls).link.bound.isSome = true ↔
          (start.run calls).state = .initializing ∨ (start.run calls).state = .initialized) ∧
        ((start.run calls).handshake.cipher?.isSome = true →
          ∃ b, (start.run calls).link.bound = some b ∧ b.encrypted = true) := by
  constructor
  · intro link start hstart calls
    have hstaged : start.Staged := staged_ofConfig hstart rfl
    exact ⟨(hstaged.run calls).inStep, toldInStep hstart calls⟩
  · intro link start hlink hstart calls
    have hunsettled : mode? link = none := Option.map_eq_none_iff.2 hlink
    have hstaged : start.Staged := staged_ofConfig hstart hunsettled
    have hrun := hstaged.run calls
    refine ⟨hrun.inStep, toldInStep hstart calls, ?_, fun hcipher => ?_⟩
    · rw [← GattLink.isSome_mode?]
      exact hrun.isSome_iff
    · exact (GattLink.mode?_eq_encrypted_iff _).1 (hrun.inStep.cipher hcipher).2

end

/-- A watch of the clear-text layout that has accepted the phone. -/
theorem inStep_run_meeting :
    (clearTextStart.run meeting).state = .initialized ∧ (clearTextStart.run meeting).InStep ∧
    (clearTextStart.run meeting).link.bound.isSome = true ∧
    (clearTextStart.run meeting).handshake.cipher? = none ∧
    clearTextStart.lastTold meeting = .initialized := by
  have hstate : (clearTextStart.run meeting).state = .initialized := by decide +kernel
  obtain ⟨hinStep, htold, hbound, hcipher⟩ :=
    inStep_run.2 {} clearTextStart rfl ofConfig_clearTextStart meeting
  have halone (service : DeviceService) : HostCall.register service ∉ meeting := by
    simp [meeting, commandFromWatch]
  have htoldLast := htold.discreet fun service hmem => absurd hmem (halone service)
  have hclear : (clearTextStart.run meeting).link.mode? = some .clearText := by decide +kernel
  refine ⟨hstate, hinStep, hbound.2 (.inr hstate), ?_, htoldLast.trans hstate⟩
  cases hkeys : (clearTextStart.run meeting).handshake.cipher? with
  | none => rfl
  | some cipher =>
      have hencrypted := (GattLink.mode?_eq_encrypted_iff _).2 (hcipher (by rw [hkeys]; rfl))
      rw [hclear] at hencrypted
      cases hencrypted

/-- A service that tells the same state of the connection whatever it is sent. -/
structure Impostor where
  state : ConnectionState

instance : Service Impostor where
  commandType _ := 50
  onCommand impostor _ _ := (impostor, .ofEvent (.connectionState impostor.state), .ok ())

def impostorStart : Session StreamLink Impostor RadioQueue :=
  { clearTextStart with link := {}, registry := {} }

/-- The watch sends a service of the host's a command before there is a connection. -/
def impersonation : List (HostCall Impostor RadioQueue) :=
  [.register ⟨.initialized⟩, .receive bareHost .stream (authFrame (.request 50 0)).octets]

/-- Nothing keeps a service from telling a state that the session is not in. The session itself
tells none until the host connects or disconnects. -/
theorem lastTold_impersonation :
    ofConfig {} {} bareConfig {} = .ok impostorStart ∧
    (impostorStart.run impersonation).state = .notConnected ∧
    impostorStart.lastTold impersonation = .initialized ∧
    (impostorStart.record [.processPending bareHost]).filterMap Moment.event? = [] := by
  refine ⟨rfl, ?_, ?_, ?_⟩
  all_goals decide +kernel

end Session

end WatchLink
