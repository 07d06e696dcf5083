import WatchLink.Proofs.Session.Connecting
import WatchLink.Proofs.Session.Receiving
import WatchLink.Proofs.Session.Run

/-!
# How a connection comes about

A session whose radio takes the first transaction awaits the watch's nonce. A watch that knows the
secret answers with a frame of authentication data, and then accepts the phone with another; after
that the session has the keys of the two nonces. Nothing is half-read at any of these steps.
-/

namespace WatchLink

/-- A frame in which the watch sends a command of the handshake. -/
def authFrame (command : Command) : Frame where
  channel := .protoRx
  flag := true
  needsResponse := false
  opcode := Frame.opcodeSend
  serial := 0
  dataType := .auth
  payload := command.toBytes

namespace Session

variable {S R : Type}

theorem exists_ofConfig (link : StreamLink) (radio : R) (config : LinkConfig)
    (capabilities : Capabilities) {secret : Octets 16} (hlink : link.reassembler.buffer = [])
    (hvalid : config.validate = .ok ()) (hsecret : config.secret = .ok secret) :
    ∃ s : Session StreamLink S R, ofConfig link radio config capabilities = .ok s ∧ s.AtRest ∧
      s.radio = radio ∧ s.handshake =
        { secret := secret, userId := config.userId, phoneInfo := config.phoneInfo } := by
  rw [ofConfig, hvalid, hsecret]
  exact ⟨_, rfl, ⟨hlink, rfl⟩, rfl, rfl⟩

section

variable [Service S] [Radio R]

theorem handshake_connect (s : Session StreamLink S R) (discovery : Discovery) (nonce : Octets 16)
    (htaken : (Radio.submit s.radio (greeting nonce)).2 = .ok ()) :
    (s.connect discovery nonce).1.handshake = (s.handshake.startEncrypted nonce).1 := by
  have hgreeted : (s.greeted nonce).radio = s.radio ∧
      (s.greeted nonce).handshake = (s.handshake.startEncrypted nonce).1 := by
    unfold greeted
    split <;> exact ⟨rfl, rfl⟩
  rw [← hgreeted.1] at htaken
  rw [connect_stream]
  cases hsubmitted : (s.greeted nonce).submit (greeting nonce) with
  | mk t answer =>
      obtain rfl : answer = .ok () := (congrArg Prod.snd hsubmitted).symm.trans htaken
      have hhandshake := congrArg (fun result => result.1.handshake) hsubmitted
      exact hhandshake.symm.trans hgreeted.2

theorem kept_connect (s : Session StreamLink S R) (discovery : Discovery) (nonce : Octets 16) :
    Kept s (s.connect discovery nonce).1 := by
  have hgreeted : Kept s (s.greeted nonce) := by
    unfold greeted
    split
    · exact .same rfl rfl
    · exact .givenUp rfl rfl
  rw [connect_stream]
  have hsubmitted : Kept s ((s.greeted nonce).submit (greeting nonce)).1 :=
    hgreeted.trans (.same rfl rfl)
  generalize (s.greeted nonce).submit (greeting nonce) = submitted at hsubmitted
  obtain ⟨t, answer⟩ := submitted
  cases answer with
  | ok => exact hsubmitted.trans (.same rfl rfl)
  | error e => exact hsubmitted.trans (.givenUp rfl rfl)

theorem AtRest.connect {s : Session StreamLink S R} (h : s.AtRest) (discovery : Discovery)
    (nonce : Octets 16) : (s.connect discovery nonce).1.AtRest :=
  h.kept (kept_connect s discovery nonce)

variable [CipherSuite]

/-- A command in a frame of authentication data is heard whatever the cipher. -/
theorem hear_authFrame_eq (s : Session StreamLink S R) (host : HostView)
    (cipher : Option PacketCipher) {command : Command}
    (hlen : command.toBytes.length < UInt64.size) :
    s.hear host cipher (authFrame command) = s.dispatch host command := by
  have hread : StreamLink.read? cipher (authFrame command).received =
      some (.command command.toBytes) := by
    have hchannel : (authFrame command).received.channel = .protoRx :=
      Frame.received_channel rfl rfl
    exact StreamLink.read?_of_unsealed hchannel
      (mt (Frame.received_dataType_eq_encrypted_iff _).1 (by decide : (2 : UInt8) ≠ 1))
  rw [hear, hread]
  simp only [handleInbound, Command.ofBytes_toBytes command hlen]

theorem hear_authFrame {s : Session StreamLink S R} (hrouted : s.registry.Routed)
    (host : HostView) (cipher : Option PacketCipher) {command : Command}
    (hkind : command.kind = Command.authKind) (hlen : command.toBytes.length < UInt64.size) :
    s.hear host cipher (authFrame command) = s.handleAuth host command := by
  rw [hear_authFrame_eq s host cipher hlen, dispatch, (hrouted.auth _).2 hkind]

/-- The answer to an honest nonce leaves the acceptance awaited. -/
theorem onReceive_honestNonce {s : Session StreamLink S R} (host : HostView)
    {phoneNonce : Octets 16} (hrest : s.AtRest) (hrouted : s.registry.Routed)
    (hstate : s.handshake.state = .awaitingWatchNonce phoneNonce)
    (hinfo : (PhoneInfo.packing.write s.handshake.phoneInfo).length < Cipher.Ccm.lengthLimit)
    (watchNonce : Octets 16) :
    (s.onReceive host .stream (authFrame (Handshake.honestNonce s.handshake.secret phoneNonce
      watchNonce)).octets).handshake =
        { s.handshake with
          state := .awaitingAuthResult
          pending? := some (.derive s.handshake.secret phoneNonce watchNonce) } := by
  obtain ⟨answer, hnonce⟩ := Handshake.handle_honestNonce hstate hinfo watchNonce
  have hlen : (Handshake.honestNonce s.handshake.secret phoneNonce watchNonce).toBytes.length =
      52 := by
    rw [Handshake.toBytes_honestNonce]
    simp
  rw [onReceive_octets_eq s host _ hrest (by rw [authFrame, hlen]; decide),
    hear_authFrame hrouted host _ rfl (by rw [hlen]; decide), handleAuth, hnonce]
  exact handshake_send _ _ _

/-- With the acceptance the keys that awaited it are those of the connection. -/
theorem onReceive_acceptance {s : Session StreamLink S R} (host : HostView) {keys : SessionKeys}
    (hrest : s.AtRest) (hrouted : s.registry.Routed)
    (hstate : s.handshake.state = .awaitingAuthResult)
    (hpending : s.handshake.pending? = some keys) :
    (s.onReceive host .stream (authFrame Handshake.acceptance).octets).handshake.keys? =
      some keys := by
  rw [onReceive_octets_eq s host _ hrest (by decide), hear_authFrame hrouted host _ rfl (by decide),
    handleAuth, Handshake.handle_acceptance hstate hpending]
  exact (Deeds.reactions (deeds_onAuthenticated_opened s host _)).keys?
    (Handshake.coherent_accepted _ keys) rfl

/-- The calls of a connection up to the answer to the watch's nonce. -/
def approach (host : HostView) (secret phoneNonce watchNonce : Octets 16) : List (HostCall S R) :=
  [.connect {} phoneNonce,
    .receive host .stream (authFrame
      (Handshake.honestNonce secret phoneNonce watchNonce)).octets]

/-- The calls of a connection up to the watch's acceptance. -/
def pairing (host : HostView) (secret phoneNonce watchNonce : Octets 16) : List (HostCall S R) :=
  approach host secret phoneNonce watchNonce ++
    [.receive host .stream (authFrame Handshake.acceptance).octets]

/-- With a watch that knows the secret the acceptance is awaited. -/
theorem run_approach {s : Session StreamLink S R} (host : HostView)
    (phoneNonce watchNonce : Octets 16) (hrest : s.AtRest) (hrouted : s.registry.Routed)
    (htaken : (Radio.submit s.radio (greeting phoneNonce)).2 = .ok ())
    (hinfo : (PhoneInfo.packing.write s.handshake.phoneInfo).length < Cipher.Ccm.lengthLimit) :
    (s.run (approach host s.handshake.secret phoneNonce watchNonce)).AtRest ∧
      (s.run (approach host s.handshake.secret phoneNonce watchNonce)).handshake =
        { s.handshake with
          state := .awaitingAuthResult
          pending? := some (.derive s.handshake.secret phoneNonce watchNonce)
          keys? := none } := by
  have hconnect := handshake_connect s.clearEffects {} phoneNonce htaken
  have hconnected := (hrest.clearEffects.connect {} phoneNonce).clearEffects
  have halike := alike_connect s.clearEffects {} phoneNonce
  simp only [approach, run_cons, run_nil, perform]
  generalize (s.clearEffects.connect {} phoneNonce).1 = t at hconnect hconnected halike ⊢
  have hhandshake : t.clearEffects.handshake = (s.handshake.startEncrypted phoneNonce).1 :=
    hconnect
  have hanswered := onReceive_honestNonce host hconnected
    (show t.clearEffects.registry.Routed from halike.routed hrouted) (by rw [hhandshake]; rfl)
    (by rw [hhandshake]; exact hinfo) watchNonce
  rw [hhandshake] at hanswered
  have hsize : (authFrame (Handshake.honestNonce s.handshake.secret phoneNonce
      watchNonce)).payload.length ≤ Frame.maxPayload := by
    rw [authFrame, Handshake.toBytes_honestNonce]
    simp [Frame.maxPayload]
  exact ⟨hconnected.onReceive host hsize, hanswered⟩

/-- With a watch that knows the secret the connection gets the keys of the two nonces. -/
theorem keys?_run_pairing {s : Session StreamLink S R} (host : HostView)
    (phoneNonce watchNonce : Octets 16) (hrest : s.AtRest) (hrouted : s.registry.Routed)
    (htaken : (Radio.submit s.radio (greeting phoneNonce)).2 = .ok ())
    (hinfo : (PhoneInfo.packing.write s.handshake.phoneInfo).length < Cipher.Ccm.lengthLimit) :
    (s.run (pairing host s.handshake.secret phoneNonce watchNonce)).handshake.keys? =
      some (.derive s.handshake.secret phoneNonce watchNonce) := by
  obtain ⟨hanswered, hhandshake⟩ :=
    run_approach host phoneNonce watchNonce hrest hrouted htaken hinfo
  have happroached := routed_run hrouted (approach host s.handshake.secret phoneNonce watchNonce)
  simp only [pairing, run_append, run_cons, run_nil, perform]
  generalize s.run (approach host s.handshake.secret phoneNonce watchNonce) = t
    at hanswered hhandshake happroached ⊢
  have hclear : t.clearEffects.handshake = t.handshake := rfl
  rw [hhandshake] at hclear
  exact onReceive_acceptance host hanswered.clearEffects
    (show t.clearEffects.registry.Routed from happroached) (by rw [hclear]) (by rw [hclear])

end

/-! ## A session to start from -/

def bareHost : HostView := ⟨{}, ⟨2024, 1, 1, 0, 0, 0, 0, 0, 0, "UTC"⟩⟩

/-- Settings whose secret is zeros. -/
def bareConfig : LinkConfig := { authKey := "00000000000000000000000000000000" }

theorem exists_bare :
    ∃ s : Session StreamLink DeviceService RadioQueue, ofConfig {} {} bareConfig {} = .ok s ∧
      s.AtRest ∧ s.handshake.secret = .zero 16 ∧
      (∀ nonce, (Radio.submit s.radio (greeting nonce)).2 = .ok ()) ∧
      (PhoneInfo.packing.write s.handshake.phoneInfo).length < Cipher.Ccm.lengthLimit := by
  have hsecret : bareConfig.secret = .ok (.zero 16) := rfl
  obtain ⟨s, hs, hrest, hradio, hhandshake⟩ := exists_ofConfig (S := DeviceService)
    ({} : StreamLink) ({} : RadioQueue) _ {} rfl rfl hsecret
  refine ⟨s, hs, hrest, ?_, ?_, ?_⟩
  · rw [hhandshake]
  · intro nonce
    rw [hradio]
    rfl
  · rw [hhandshake]
    decide +kernel

end Session

end WatchLink
