import WatchLink.Proofs.Link.Choosing
import WatchLink.Proofs.Session.Disconnecting

/-!
# Connecting is all or nothing

Connecting either submits one transaction, which ends with the hello, or it submits nothing and
leaves nothing of a connection. The attempt that fails is the one to look at: where the link cannot
be bound, a session that was not connected is not reset, so it has to have nothing left already.
For the handshake, the upload and the installation that is known. For being busy it is so over
characteristics, and only there can binding fail: a link that is not bound hears nothing, so no
service can tell of being busy.
-/

namespace WatchLink

theorem Handshake.Coherent.reset_of_idle {h : Handshake} (coherent : h.Coherent)
    (idle : h.state = .idle) (unkeyed : h.keys?.isSome = false) : h.reset = h := by
  have hkeys : h.keys? = none := Option.not_isSome_iff_eq_none.1 (by rw [unkeyed]; nofun)
  have hpending : h.pending? = none := Option.not_isSome_iff_eq_none.1 fun hsome => by
    cases idle.symm.trans (coherent.pending.1 hsome)
  cases h
  subst idle hkeys hpending
  rfl

/-! ## Links that hear nothing -/

namespace GattLink

/-- Where nothing is bound nothing is heard. -/
theorem receive_of_unbound {link : GattLink} (h : link.bound = none) (endpoint : Endpoint)
    (data : Bytes) (cipher : Option PacketCipher) :
    link.receive endpoint data cipher = (link, []) := by
  unfold receive
  split
  · rename_i hbound
    cases h.symm.trans hbound
  · rfl

/-- What is submitted to a watch of a layout, up to the hello. -/
def greeting (link : GattLink) (t : ServiceTemplate) (hello : Command) : Transaction :=
  ⟨"initialize",
    [.requestMtu link.mtuRequest, .setState .initializing, .subscribe (.resource t.commandWrite),
      .subscribe (.resource t.commandRead), .subscribe (.resource t.activityData),
      .subscribe (.resource t.dataUpload), .write (.resource t.commandWrite) hello.toBytes]⟩

/-- Without a cipher a command is written as it is. -/
theorem writeCommand_boundTo (link : GattLink) (t : ServiceTemplate) (command : Command) :
    ((link.boundTo t).writeCommand command none).Puts (link.boundTo t)
      (.write (.resource t.commandWrite) command.toBytes) := by
  have hclear : (BoundResources.ofTemplate t).commandWrite.cipherFor none = none := ite_self none
  have hencode : (BoundResources.ofTemplate t).commandWrite.encode command.toBytes none =
      ((BoundResources.ofTemplate t).commandWrite, .ok command.toBytes) := by
    simp only [Resource.encode, hclear]
  exact writeCommand_of_encode rfl hencode

/-- A value is one payload, or none. -/
theorem receive_cases (link : GattLink) (endpoint : Endpoint) (data : Bytes)
    (cipher : Option PacketCipher) :
    ∃ inbound : Option Inbound, link.receive endpoint data cipher = (link, inbound.toList) := by
  unfold receive
  split
  · exact ⟨_, rfl⟩
  · exact ⟨none, rfl⟩

end GattLink

namespace Session

open Settling Making

section

variable {L S R : Type} [CipherSuite] [Link L] [Radio R]

/-! ## The state after a payload -/

theorem standing_post (s : Session L S R) (out : Outbox) :
    (s.post out).handshake = s.handshake ∧ (s.post out).state = s.state :=
  post_keep (P := fun t => t.handshake = s.handshake ∧ t.state = s.state) out ⟨rfl, rfl⟩
    (fun _ _ h => h) fun t task command h =>
      ⟨(handshake_send t task command).trans h.1, (state_send t task command).trans h.2⟩

theorem standing_flush (s : Session L S R) (out : Outbox) :
    (s.flush out).handshake = s.handshake ∧ (s.flush out).state = s.state := by
  obtain ⟨hhandshake, hstate⟩ := s.standing_post out
  rw [flush]
  split
  · obtain ⟨hstarted, hstayed⟩ := (s.post out).standing_startUpload _
    exact ⟨hstarted.trans hhandshake, hstayed.trans hstate⟩
  · exact ⟨hhandshake, hstate⟩

variable [Service S]

/-- A payload leaves the state as it is, or the watch has accepted the phone, or refused it, and
then nothing else has been done about it. -/
theorem state_handleAuth (s : Session L S R) (host : HostView) (command : Command) :
    (s.handleAuth host command).state = s.state ∨
    (s.handleAuth host command).state = .initialized ∨
    ∃ handshake, s.handleAuth host command = s.refused handshake := by
  have hreplied := s.replied host command
  generalize s.handleAuth host command = t at hreplied ⊢
  cases hreplied with
  | ignored => exact .inl rfl
  | refused => exact .inr (.inr ⟨_, rfl⟩)
  | answered => exact .inl (state_send _ _ _)
  | accepted => exact .inr (.inl (standing_flush _ _).2)

theorem state_handleInbound {s : Session L S R} (heeded : s.Heeded) (host : HostView)
    (inbound : Inbound) :
    (s.handleInbound host inbound).state = s.state ∨
    (s.handleInbound host inbound).state = .initialized ∨
    ∃ handshake, s.handleInbound host inbound = s.refused handshake := by
  cases inbound with
  | activity => exact .inl rfl
  | uploadAck ack => exact .inl (uploaded_ack heeded ack).standing.2
  | command bytes =>
      rw [handleInbound]
      split
      · rw [dispatch]
        split
        · exact state_handleAuth s host _
        · exact .inl (standing_flush _ _).2
        · split
          · rename_i handled
            exact .inl (uploaded_command heeded handled).standing.2
          · exact .inl rfl
        · exact .inl (standing_flush _ _).2
        · exact .inl rfl
      · exact .inl rfl

end

/-! ## Being busy without a connection -/

section

variable {S R : Type} [CipherSuite] [Service S] [Radio R]

/-- A session over characteristics that is away is not busy. -/
structure Calm (s : Session GattLink S R) : Prop where
  heeded : s.Heeded
  staged : s.Staged
  unbusy : s.Away → s.busy = none

omit [CipherSuite] [Service S] [Radio R] in
theorem Staged.unbound {s : Session GattLink S R} (h : s.Staged) (away : s.Away) :
    s.link.bound = none := Option.map_eq_none_iff.1 (h.at_rest away.1 away.2).2.2

theorem Calm.receiveNow {s : Session GattLink S R} (h : s.Calm) (host : HostView)
    (endpoint : Endpoint) (data : Bytes) : (s.receiveNow host endpoint data).Calm := by
  have hacts := acts_receiveNow s host endpoint data
  have heeded : (s.receiveNow host endpoint data).Heeded := hacts.keep Heeded.act h.heeded
  refine ⟨heeded, hacts.moves.keep staged_move h.staged, fun away => ?_⟩
  by_cases hfound : s.Away
  · have hnothing : s.link.receive endpoint data s.handshake.cipher? = (s.link, []) :=
      GattLink.receive_of_unbound (h.staged.unbound hfound) ..
    have hsame : s.receiveNow host endpoint data = s := by
      simp only [Session.receiveNow, Link.receive, hnothing]
      rfl
    rw [hsame]
    exact h.unbusy hfound
  · -- One payload at most, so what takes the session away is that the watch has refused the phone.
    obtain ⟨inbound?, hreceive⟩ := s.link.receive_cases endpoint data s.handshake.cipher?
    have hheard : s.receiveNow host endpoint data =
        inbound?.toList.foldl (fun s payload => s.handleInbound host payload) s := by
      simp only [Session.receiveNow, Link.receive, hreceive]
    rw [hheard] at away ⊢
    cases inbound? with
    | none => exact absurd away hfound
    | some inbound =>
        change (s.handleInbound host inbound).Away at away
        change (s.handleInbound host inbound).busy = none
        rcases state_handleInbound h.heeded host inbound with
          hstate | hopened | ⟨handshake, hrefused⟩
        · rw [Away, hstate] at away
          exact absurd away hfound
        · exact absurd hopened away.1
        · rw [hrefused]
          rfl

theorem reads_calm : Reads (Calm (S := S) (R := R)) where
  inbox _ _ h := ⟨h.heeded, h.staged, h.unbusy⟩
  resync _ h := ⟨h.heeded, h.staged, h.unbusy⟩
  read _ host endpoint data h := h.receiveNow host endpoint data

omit [CipherSuite] [Radio R] in
theorem Calm.ready {s : Session GattLink S R} (h : s.Calm) : s.ready.busy = none := by
  rcases s.ready_cases with ⟨hstate, hready⟩ | hready
  · have haway : s.Away := by simp [Away, hstate]
    rw [hready]
    exact h.unbusy haway
  · rw [hready]
    rfl

theorem Calm.perform {s : Session GattLink S R} (h : s.Calm) (call : HostCall S R) :
    (s.perform call).1.Calm := by
  refine ⟨h.heeded.perform call, h.staged.perform call, ?_⟩
  have hkept {t : Session GattLink S R} (state : t.state = s.state) (busy : t.busy = s.busy) :
      t.Away → t.busy = none := by
    intro away
    rw [Away, state] at away
    exact busy.trans (h.unbusy away)
  have hopened {t : Session GattLink S R} (opened : t.state = .initialized) :
      t.Away → t.busy = none := fun away => absurd opened away.1
  have hrequest (out : Except LinkError Outbox) :
      (s.request out).1.Away → (s.request out).1.busy = none := by
    unfold request
    split
    · rename_i hinitialized
      split
      · exact hopened ((standing_flush s _).2.trans (of_decide_eq_true hinitialized))
      · exact hkept rfl rfl
    · exact hkept rfl rfl
  cases call with
  | connect discovery nonce =>
      have hconnected := s.connected discovery nonce
      change (s.connect discovery nonce).1.Away → (s.connect discovery nonce).1.busy = none
      generalize (s.connect discovery nonce).1 = t at hconnected ⊢
      cases hconnected with
      | unbound => exact fun _ => h.ready
      | unwritten => exact fun _ => rfl
      | refused => exact fun _ => rfl
      | greeted => exact fun away => absurd rfl away.2
  | disconnect => exact fun _ => rfl
  | mtuChanged => exact h.unbusy
  | register => exact h.unbusy
  | deliver => exact h.unbusy
  | processPending host => exact (reads_calm.processAtMost host _ h).unbusy
  | receive host endpoint data => exact (reads_calm.onReceive host endpoint data h).unbusy
  | sendIn => exact h.unbusy
  | send task command => exact hkept (state_send s task command) (busy_send s task command)
  | installFirmware image =>
      change (s.installFirmware image).1.Away → (s.installFirmware image).1.busy = none
      rcases installFirmware_cases s image with ⟨error, hrefused⟩ | ⟨hinitialized, -, hasked⟩
      · rw [hrefused]
        exact h.unbusy
      · rw [hasked]
        exact hopened ((state_send _ _ _).trans hinitialized)
  | sendConfiguration host key =>
      change (s.sendConfiguration host key).1.Away → (s.sendConfiguration host key).1.busy = none
      rw [sendConfiguration]
      split
      · rename_i hinitialized
        simp only
        split
        · exact hopened ((standing_flush _ _).2.trans (of_decide_eq_true hinitialized))
        · exact hopened ((standing_flush _ _).2.trans (of_decide_eq_true hinitialized))
      · exact h.unbusy
  | setCurrentTime => exact hrequest _
  | findPhoneStop => exact hrequest _
  | findWatch => exact hrequest _
  | setVibration => exact hrequest _
  | radio => exact h.unbusy
  | inbox => exact h.unbusy

theorem calm_run {link : GattLink} (unbound : link.bound = none) {radio : R} {config : LinkConfig}
    {capabilities : Capabilities} {start : Session GattLink S R}
    (hstart : ofConfig link radio config capabilities = .ok start) (calls : List (HostCall S R)) :
    (start.run calls).Calm := by
  have hstaged : start.Staged := staged_ofConfig hstart (Option.map_eq_none_iff.2 unbound)
  refine run_keep (P := Calm) calls ?_ fun t hcalm call _ => ?_
  · refine ⟨(Reachable.ofConfig hstart).heeded, hstaged, fun _ => ?_⟩
    obtain ⟨secret, rfl⟩ := eq_of_ofConfig hstart
    rfl
  · have hclear : t.clearEffects.Calm := ⟨hcalm.heeded, hcalm.staged, hcalm.unbusy⟩
    exact hclear.perform call

end

/-! ## All or nothing -/

section

variable {L S R : Type} [Link L] [Service S] [Radio R]

/-- Binding has failed. -/
theorem connect_of_unbound {s : Session L S R} {discovery : Discovery} {nonce : Octets 16}
    {link : L} {e : LinkError} (bound : Link.bind s.ready.link discovery = (link, .error e)) :
    s.connect discovery nonce =
      (setState { s.ready with link := link }
        (if e = .resourceIncomplete then .waitingForReconnect else .notConnected), .error e) := by
  have hready : (if s.state = .notConnected then s else s.resetConnection).setState .connecting =
      s.ready := rfl
  simp only [connect, hready, bound]
  cases e <;> rfl

/-- The hello has been written, and it is for the radio to take it. -/
theorem connect_of_bound {s : Session L S R} {discovery : Discovery} {nonce : Octets 16}
    {link next : L} {mode : HandshakeMode} {op : RadioOp}
    (bound : Link.bind s.ready.link discovery = (link, .ok mode))
    (written : (Link.writeCommand (Link.resetCounters link) (s.ready.handshake.start mode nonce).2
      none).Puts next op) :
    s.connect discovery nonce =
      match s.saidHello (Link.resetCounters link) next mode nonce op with
      | (t, .ok ()) => (t.setState .initializing, .ok ())
      | (t, .error e) => (t.resetConnection.setState .notConnected, .error e) := by
  have hready : (if s.state = .notConnected then s else s.resetConnection).setState .connecting =
      s.ready := rfl
  simp only [connect, hready, bound, written _]
  rfl

/-- Nothing is left of an attempt to connect: nothing was submitted, and there is nothing more of a
connection than in the session that all began with. -/
structure Withdrawn (start s t : Session L S R) : Prop where
  handshake : t.handshake = start.handshake
  upload : t.upload = {}
  install : t.device.install = .idle
  busy : t.busy = none
  transactions : t.transactions = s.transactions

/-- What an attempt to connect comes to, for the one transaction that the link has to offer or the
error that it has instead. -/
inductive Attempted (start s : Session L S R) (cleared : L → Prop) :
    Except LinkError Transaction → Session L S R × Except LinkError Unit → Prop
  | unbound {e : LinkError} {t : Session L S R} (withdrawn : Withdrawn start s t)
      (link : cleared t.link)
      (state : t.state =
        if e = .resourceIncomplete then .waitingForReconnect else .notConnected) :
      Attempted start s cleared (.error e) (t, .error e)
  | refused {transaction : Transaction} {e : LinkError} {t : Session L S R}
      (refused : (Radio.submit s.radio transaction).2 = .error e) (withdrawn : Withdrawn start s t)
      (link : cleared t.link) (state : t.state = .notConnected) :
      Attempted start s cleared (.ok transaction) (t, .error e)
  | greeted {transaction : Transaction} {t : Session L S R}
      (taken : (Radio.submit s.radio transaction).2 = .ok ()) (state : t.state = .initializing)
      (effects : t.effects =
        [.told (.connectionState .initializing), .submitted transaction,
          .told (.connectionState .connecting)] ++ s.effects) :
      Attempted start s cleared (.ok transaction) (t, .ok ())

omit [Link L] [Service S] in
/-- Connecting succeeds just when the link can be bound and the radio takes the transaction. -/
theorem Attempted.ok_iff {start s : Session L S R} {cleared : L → Prop}
    {offer : Except LinkError Transaction} {result : Session L S R × Except LinkError Unit}
    (h : Attempted start s cleared offer result) :
    result.2 = .ok () ↔
      ∃ transaction, offer = .ok transaction ∧ (Radio.submit s.radio transaction).2 = .ok () := by
  cases h with
  | unbound => exact ⟨nofun, nofun⟩
  | refused refused =>
      refine ⟨nofun, ?_⟩
      rintro ⟨_, ⟨⟩, taken⟩
      cases refused.symm.trans taken
  | greeted taken => exact ⟨fun _ => ⟨_, rfl, taken⟩, fun _ => rfl⟩

/-- A session that connects has nothing of a connection. -/
structure Unconnected (start s : Session L S R) : Prop where
  handshake : s.handshake = start.handshake
  upload : s.upload = {}
  install : s.device.install = .idle

theorem attempted_of_unbound {start s : Session L S R} {cleared : L → Prop}
    (ready : Unconnected start s.ready) (unbusy : s.ready.busy = none) {discovery : Discovery}
    (nonce : Octets 16) {link : L} {e : LinkError}
    (bound : Link.bind s.ready.link discovery = (link, .error e)) (hcleared : cleared link) :
    Attempted start s cleared (.error e) (s.connect discovery nonce) := by
  rw [connect_of_unbound bound]
  refine .unbound ⟨ready.handshake, ready.upload, ready.install, unbusy, ?_⟩ hcleared rfl
  change transactions { s.ready with effects := .told _ :: s.ready.effects } = _
  rw [transactions, transactions]
  simp [effects_ready]

/-- The hello goes to the radio that there was. -/
theorem saidHello_eq (s : Session L S R) (bound written : L) (mode : HandshakeMode)
    (nonce : Octets 16) (op : RadioOp) :
    (s.saidHello bound written mode nonce op).2 =
      (Radio.submit s.radio ⟨"initialize", Link.startup bound ++ [op]⟩).2 := by
  have hradio : s.ready.radio = s.radio := by
    rcases s.ready_cases with ⟨-, hready⟩ | hready <;> rw [hready] <;> rfl
  rw [← hradio]
  rfl

/-- What became of the hello is on record. -/
theorem effects_saidHello (s : Session L S R) (bound written : L) (mode : HandshakeMode)
    (nonce : Octets 16) (op : RadioOp) :
    (s.saidHello bound written mode nonce op).1.effects =
      (match (s.saidHello bound written mode nonce op).2 with
        | .ok () => .submitted ⟨"initialize", Link.startup bound ++ [op]⟩
        | .error _ => .refused ⟨"initialize", Link.startup bound ++ [op]⟩) ::
          .told (.connectionState .connecting) :: s.effects := by
  rw [← s.effects_ready]
  rfl

theorem attempted_of_bound {start s : Session L S R} {cleared : L → Prop}
    (ready : Unconnected start s.ready) (settled : start.handshake.reset = start.handshake)
    {discovery : Discovery} {nonce : Octets 16} {link next : L} {mode : HandshakeMode}
    {op : RadioOp} (bound : Link.bind s.ready.link discovery = (link, .ok mode))
    (written : (Link.writeCommand (Link.resetCounters link) (start.handshake.start mode nonce).2
      none).Puts next op)
    (hcleared : cleared (Link.teardown next)) :
    Attempted start s cleared
      (.ok ⟨"initialize", Link.startup (Link.resetCounters link) ++ [op]⟩)
      (s.connect discovery nonce) := by
  have htaken := s.saidHello_eq (Link.resetCounters link) next mode nonce op
  have heffects := s.effects_saidHello (Link.resetCounters link) next mode nonce op
  have hhandshake : (s.saidHello (Link.resetCounters link) next mode nonce op).1.handshake.reset =
      start.handshake := by
    rw [← settled, ← ready.handshake]
    exact s.ready.handshake.reset_start mode nonce
  have hlink : (s.saidHello (Link.resetCounters link) next mode nonce op).1.link = next := rfl
  rw [← ready.handshake] at written
  rw [connect_of_bound bound written]
  generalize s.saidHello (Link.resetCounters link) next mode nonce op = said
    at htaken heffects hhandshake hlink ⊢
  obtain ⟨t, answer⟩ := said
  cases answer with
  | ok =>
      exact .greeted htaken.symm rfl (congrArg (Effect.told _ :: ·) heffects)
  | error e =>
      refine .refused htaken.symm ⟨hhandshake, rfl, rfl, rfl, ?_⟩ ?_ rfl
      · have hgivenUp : (t.resetConnection.setState .notConnected).effects =
            [.told (.connectionState .notConnected),
              .refused ⟨"initialize", Link.startup (Link.resetCounters link) ++ [op]⟩,
              .told (.connectionState .connecting)] ++ s.effects :=
          congrArg (Effect.told _ :: ·) heffects
        simp [transactions, hgivenUp]
      · change cleared (Link.teardown t.link)
        rw [hlink]
        exact hcleared

end

section

variable {L S R : Type} [CipherSuite] [Link L] [Settling L] [Making L] [Service S] [Radio R]

omit [CipherSuite] [Settling L] [Making L] [Service S] [Radio R] [Link L] in
theorem reset_ofConfig {link : L} {radio : R} {config : LinkConfig} {capabilities : Capabilities}
    {start : Session L S R} (hstart : ofConfig link radio config capabilities = .ok start) :
    start.handshake.reset = start.handshake := by
  obtain ⟨secret, rfl⟩ := eq_of_ofConfig hstart
  rfl

theorem unconnected_ready {link : L} {radio : R} {config : LinkConfig}
    {capabilities : Capabilities} {start : Session L S R}
    (hstart : ofConfig link radio config capabilities = .ok start)
    (unsettled : mode? link = unsettled (L := L)) (calls : List (HostCall S R)) :
    Unconnected start (start.run calls).ready := by
  have hreachable : start.Reachable := .ofConfig hstart
  have hstaged : start.Staged := staged_ofConfig hstart unsettled
  obtain ⟨hidle, hnothing⟩ := ((tied_ofConfig hstart).run hreachable hstaged calls).ready
  obtain ⟨hstate, hkeys, -⟩ := (hstaged.run calls).ready
  have hcoherent : (start.run calls).ready.handshake.Coherent := by
    rcases (start.run calls).ready_cases with ⟨-, hready⟩ | hready
    · rw [hready]
      exact (hreachable.run calls).coherent
    · rw [hready]
      exact Handshake.coherent_reset _
  have hsettings := (settings_ready (start.run calls)).trans (settings_run start calls)
  have hreset : (start.run calls).ready.handshake.reset = start.handshake.reset :=
    congrArg (fun settings => settings.2.1) hsettings
  refine ⟨?_, hnothing, hidle⟩
  rw [← reset_ofConfig hstart, ← hreset]
  exact (hcoherent.reset_of_idle hstate hkeys).symm

omit [Settling L] in
theorem made_ready {link : L} {radio : R} {config : LinkConfig} {capabilities : Capabilities}
    {start : Session L S R} (hstart : ofConfig link radio config capabilities = .ok start)
    (calls : List (HostCall S R)) : made (start.run calls).ready.link = made link :=
  (congrArg Prod.fst (settings_ready _)).trans (disconnect_as_new hstart calls).2

end

/-! ## Over either link -/

section

variable {S R : Type} [CipherSuite] [Service S] [Radio R]

/-- What is left of a stream: its size of parts, and the totals of its reassembler. -/
def StreamLeft (link found left : StreamLink) : Prop :=
  left =
    { chunkSize := link.chunkSize
      reassembler :=
        { discarded := found.reassembler.discarded, dropped := found.reassembler.dropped } }

theorem attempted_stream {link : StreamLink} {radio : R} {config : LinkConfig}
    {capabilities : Capabilities} {start : Session StreamLink S R}
    (hstart : ofConfig link radio config capabilities = .ok start) (calls : List (HostCall S R))
    (discovery : Discovery) (nonce : Octets 16) :
    Attempted start (start.run calls) (StreamLeft link (start.run calls).link)
      (.ok (greeting nonce)) ((start.run calls).connect discovery nonce) := by
  have hready := unconnected_ready hstart rfl calls
  have hmade : (start.run calls).ready.link.made = link.made := made_ready hstart calls
  have hwritten := StreamLink.writeFrame_of_unsealed (start.run calls).ready.link.resetCounters
    (.command 0 .auth (hello nonce).toBytes) none nofun
  have htotals : Link.teardown (start.run calls).ready.link =
      { (start.run calls).ready.link.made with
        reassembler :=
          { discarded := (start.run calls).link.reassembler.discarded
            dropped := (start.run calls).link.reassembler.dropped } } := by
    rcases (start.run calls).ready_cases with ⟨-, hready⟩ | hready <;> rw [hready] <;> rfl
  rw [hmade] at htotals
  have hbound : Link.bind (start.run calls).ready.link discovery =
      ((start.run calls).ready.link, .ok .encrypted) := rfl
  exact attempted_of_bound hready (reset_ofConfig hstart) hbound hwritten htotals

theorem attempted_gatt {link : GattLink} (unbound : link.bound = none) {radio : R}
    {config : LinkConfig} {capabilities : Capabilities} {start : Session GattLink S R}
    (hstart : ofConfig link radio config capabilities = .ok start) (calls : List (HostCall S R))
    (discovery : Discovery) (nonce : Octets 16) :
    Attempted start (start.run calls) (fun left => left.bound = none)
      ((GattLink.select discovery link.templates false).map fun template =>
        link.greeting template (start.handshake.start template.mode nonce).2)
      ((start.run calls).connect discovery nonce) := by
  have hready := unconnected_ready hstart (Option.map_eq_none_iff.2 unbound) calls
  have hmade : (start.run calls).ready.link.made = link.made := made_ready hstart calls
  obtain ⟨htemplates, hrequest, -⟩ := GattLink.mk.inj hmade
  have hgreeting (template : ServiceTemplate) (command : Command) :
      (start.run calls).ready.link.greeting template command = link.greeting template command := by
    rw [GattLink.greeting, GattLink.greeting, hrequest]
  rw [← htemplates]
  cases hselect : GattLink.select discovery (start.run calls).ready.link.templates false with
  | error e =>
      exact attempted_of_unbound hready (calm_run unbound hstart calls).ready nonce
        (GattLink.bind_of_select_error hselect) rfl
  | ok template =>
      have hattempted : Attempted start (start.run calls) (fun left => left.bound = none) _ _ :=
        attempted_of_bound hready (reset_ofConfig hstart) (GattLink.bind_of_select hselect)
          (GattLink.writeCommand_boundTo _ template
            (start.handshake.start template.mode nonce).2) rfl
      rw [Except.map, ← hgreeting]
      exact hattempted

/-- After every run, connecting is all or nothing, whatever the radio answers. Over a stream the
link has the greeting to offer, and it is up to the radio. Over characteristics it offers to ask for
a size, to subscribe to the four characteristics of the first complete layout and to write the hello
of that layout to one of them; it has an error instead where no layout is complete. An attempt that
fails comes to that error or to the radio's own, and nothing is left of it. -/
theorem connect_run {radio : R} {config : LinkConfig} {capabilities : Capabilities}
    (discovery : Discovery) (nonce : Octets 16) :
    (∀ (link : StreamLink) (start : Session StreamLink S R),
      ofConfig link radio config capabilities = .ok start → ∀ calls,
        (((start.run calls).connect discovery nonce).2 = .ok () ↔
          (Radio.submit (start.run calls).radio (greeting nonce)).2 = .ok ()) ∧
        Attempted start (start.run calls)
          (StreamLeft link (start.run calls).link)
          (.ok (greeting nonce)) ((start.run calls).connect discovery nonce)) ∧
    ∀ (link : GattLink) (start : Session GattLink S R), link.bound = none →
      ofConfig link radio config capabilities = .ok start → ∀ calls,
        (((start.run calls).connect discovery nonce).2 = .ok () ↔
          ∃ template, GattLink.select discovery link.templates false = .ok template ∧
            (Radio.submit (start.run calls).radio
              (link.greeting template (start.handshake.start template.mode nonce).2)).2 =
                .ok ()) ∧
        Attempted start (start.run calls) (fun left => left.bound = none)
          ((GattLink.select discovery link.templates false).map fun template =>
            link.greeting template (start.handshake.start template.mode nonce).2)
          ((start.run calls).connect discovery nonce) := by
  constructor
  · intro link start hstart calls
    have hattempted := attempted_stream hstart calls discovery nonce
    refine ⟨hattempted.ok_iff.trans ⟨?_, fun taken => ⟨_, rfl, taken⟩⟩, hattempted⟩
    rintro ⟨_, ⟨⟩, taken⟩
    exact taken
  · intro link start unbound hstart calls
    have hattempted := attempted_gatt unbound hstart calls discovery nonce
    refine ⟨hattempted.ok_iff.trans ?_, hattempted⟩
    cases GattLink.select discovery link.templates false with
    | ok template => simp [Except.map]
    | error e => simp [Except.map]

end

/-- A watch of the clear-text layout that lacks one of the characteristics. -/
def partialWatch : Discovery :=
  ⟨[⟨.ofShort 0xFDAB, [.ofShort 0x0001, .ofShort 0x0002, .ofShort 0x0003]⟩]⟩

/-- Connecting anew in the middle of an installation, to a watch that lacks a characteristic, leaves
nothing of either; over a stream the greeting is submitted. -/
theorem connect_run_installing :
    ((streamStart.run halfRead).connect {} (.zero 16)).2 = .ok () ∧
    (clearTextStart.run installing).upload.job ≠ none ∧
    ((clearTextStart.run installing).connect partialWatch (.zero 16)).2 =
      .error .resourceIncomplete ∧
    Attempted clearTextStart (clearTextStart.run installing) (fun left => left.bound = none)
      (.error .resourceIncomplete)
      ((clearTextStart.run installing).connect partialWatch (.zero 16)) := by
  have hstart : ofConfig {} {} bareConfig {} = .ok streamStart := rfl
  have hstream := (connect_run {} (.zero 16)).1 {} streamStart hstart halfRead
  have hgatt :=
    (connect_run partialWatch (.zero 16)).2 {} clearTextStart rfl ofConfig_clearTextStart installing
  exact ⟨hstream.1.2 (by decide +kernel), by decide +kernel, by decide +kernel, hgatt.2⟩

/-- A radio that takes nothing, and says why in words of its own. -/
structure ShutRadio where
  reason : LinkError

instance : Radio ShutRadio := ⟨fun radio _ => (radio, .error radio.reason)⟩

/-- A session whose radio talks of an incomplete layout. -/
def shutStart : Session StreamLink DeviceService ShutRadio :=
  { streamStart with radio := ⟨.resourceIncomplete⟩ }

/-- Noise has come in, and the radio is off when the host connects. -/
def noiseThenOff : List (HostCall DeviceService RadioQueue) :=
  [.receive bareHost .stream (List.replicate 12 0), .radio { offline := true }]

/-- Two things are not as in a session that binding has failed for: an error of the radio is no
reason to wait for a reconnect, whatever it is called, and what a stream has discarded stays
counted. -/
theorem connect_shutStart :
    ofConfig {} ⟨.resourceIncomplete⟩ bareConfig {} = .ok shutStart ∧
    (shutStart.connect {} (.zero 16)).2 = .error .resourceIncomplete ∧
    (shutStart.connect {} (.zero 16)).1.state = .notConnected ∧
    ofConfig {} {} bareConfig {} = .ok streamStart ∧
    ((streamStart.run noiseThenOff).connect {} (.zero 16)).2 = .error .radio ∧
    streamStart.link.reassembler.discarded = 0 ∧
    ((streamStart.run noiseThenOff).connect {} (.zero 16)).1.link.reassembler.discarded = 12 := by
  refine ⟨rfl, ?_, ?_, rfl, ?_, rfl, ?_⟩
  all_goals decide +kernel

end Session

end WatchLink
