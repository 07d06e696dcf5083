import WatchLink.Proofs.Session.Installing

/-!
# What a report of success says

The payloads of a call are heard one after the other, and what each leads to is recorded before the
next, so `Installing` is carried over them: from a payload to a read, from a read to what waits in
the inbox, and from a call to a run. What was delivered in the reading of the session that reports
it is delivered in that of the session the call leaves, since keys and layout stay once the watch
has been authenticated.
-/

namespace WatchLink.Session

open Relation BulkReading Moment

section

variable {L S R : Type} [CipherSuite] [Link L] [Service S] [Radio R] [BulkReading L]
  {s t u : Session L S R} {moments more last : List Moment}

/-! ## What stays -/

theorem layout_of_partsPut {link next : L} {cipher : Option PacketCipher} {parts : List Bytes}
    {writes : List RadioOp} (written : PartsPut cipher link parts next writes) :
    layout next = layout link :=
  written.keep (P := fun next => layout next = layout link)
    (fun _ _ _ _ made h => (layout_writeBulk made).trans h) rfl

/-- Once the watch has been authenticated, what its end reads stays until the connection ends. -/
theorem same_reaction (reaction : Reaction s t)
    (authenticated : s.handshake.state = .authenticated) :
    t.handshake = s.handshake ∧ layout t.link = layout s.link := by
  have hnever (awaits : s.handshake.state.awaits = true) :
      t.handshake = s.handshake ∧ layout t.link = layout s.link := by
    rw [authenticated] at awaits
    cases awaits
  cases reaction with
  | tell => exact ⟨rfl, rfl⟩
  | device => exact ⟨rfl, rfl⟩
  | registry => exact ⟨rfl, rfl⟩
  | upload => exact ⟨rfl, rfl⟩
  | send task command => exact ⟨handshake_send s task command, layout_send s task command⟩
  | parts written => exact ⟨rfl, layout_of_partsPut written⟩
  | submitParts progress written => exact ⟨rfl, layout_of_partsPut written⟩
  | answer handled => exact hnever (Handshake.awaits_of_send handled).1
  | accept handled => exact hnever (Handshake.awaits_of_authenticated handled)
  | refuse handled => exact hnever (Handshake.awaits_of_failed handled)

theorem Moves.same (h : Moves s t) (authenticated : s.handshake.state = .authenticated) :
    t.handshake = s.handshake ∧ layout t.link = layout s.link := by
  refine Moves.keep
    (P := fun u => u.handshake = s.handshake ∧ layout u.link = layout s.link) ?_ h ⟨rfl, rfl⟩
  rintro u v move ⟨hhandshake, hlayout⟩
  cases move with
  | react reaction =>
      obtain ⟨hsame, hstays⟩ := same_reaction reaction (hhandshake ▸ authenticated)
      exact ⟨hsame.trans hhandshake, hstays.trans hlayout⟩
  | inbox => exact ⟨hhandshake, hlayout⟩
  | receive endpoint data => exact ⟨hhandshake, (layout_receive _ _ _ _).trans hlayout⟩
  | resync => exact ⟨hhandshake, (layout_resync _).trans hlayout⟩

theorem Lawful.moves (h : s.Lawful moments more) (moves : Moves s t) : t.Lawful moments more := by
  intro before text after hsplit
  obtain ⟨hauthenticated, image, since, hbegun, hdelivered⟩ := h before text after hsplit
  obtain ⟨hhandshake, hlayout⟩ := moves.same hauthenticated
  refine ⟨hhandshake ▸ hauthenticated, image, since, hbegun, ?_⟩
  rwa [reading, hhandshake, hlayout]

/-! ## What a read carries -/

theorem installing_deeds (h : Installing moments s) (deeds : Deeds s t)
    (untroubled : Untroubled (news s t)) :
    Installing (moments ++ news s t) t ∧ Untold (news s t) := by
  induction deeds with
  | refl =>
      rw [news_of_effects rfl, List.append_nil]
      exact ⟨h, fun _ => List.not_mem_nil⟩
  | @tail u t deeds deed ih =>
      have hnews := news_trans (Deeds.reactions deeds).moves.effects deed.reactions.moves.effects
      rw [hnews] at untroubled ⊢
      obtain ⟨hsofar, huntold⟩ := ih (untroubled_append.1 untroubled).1
      obtain ⟨hnext, hmore⟩ := installing_deed hsofar deed (untroubled_append.1 untroubled).2
      rw [← List.append_assoc]
      exact ⟨hnext, huntold.append hmore⟩

/-- Acts lead from one session to another with these moments, and nothing is reported done in them
that was not delivered. -/
structure Carried (moments more : List Moment) (s t : Session L S R) : Prop where
  acts : Acts s t
  installing : Installing (moments ++ more) t
  lawful : t.Lawful moments more

theorem Carried.trans (h : Carried moments more s t) (hlast : Carried (moments ++ more) last t u) :
    Carried moments (more ++ last) s u where
  acts := ReflTransGen.trans h.acts hlast.acts
  installing := by
    rw [← List.append_assoc]
    exact hlast.installing
  lawful := (h.lawful.moves hlast.acts.moves).append hlast.lawful

theorem Carried.refl (h : Installing moments s) : Carried moments [] s s where
  acts := .refl
  installing := by rwa [List.append_nil]
  lawful := lawful_of_untold fun _ => List.not_mem_nil

theorem Carried.head (act : Act s t) (h : Carried moments more t u) : Carried moments more s u where
  acts := .head act h.acts
  installing := h.installing
  lawful := h.lawful

theorem carried_handleInbound (h : Installing moments s) (host : HostView) (inbound : Inbound)
    (hears : ∀ ack, inbound = .uploadAck ack → s.device.install ≠ .idle → Hears (layout s.link))
    (untroubled : Untroubled (news s (s.handleInbound host inbound))) :
    Carried moments (.heard inbound :: news s (s.handleInbound host inbound)) s
      (s.handleInbound host inbound) := by
  have hacts := acts_handleInbound s host inbound
  have hheard : Untold [Moment.heard inbound] := fun text hmem => by simp at hmem
  rcases handleInbound_cases s host inbound with ⟨ack, rfl, hacknowledged⟩ | hdeeds
  · rw [hacknowledged] at hacts untroubled ⊢
    obtain ⟨hinstalling, hlawful⟩ := installing_acknowledged h ack (hears ack rfl) untroubled
    refine ⟨hacts, ?_, (lawful_of_untold hheard).append hlawful⟩
    rwa [List.append_assoc] at hinstalling
  · have hsofar : Installing (moments ++ [.heard inbound]) s :=
      h.extend (.refl s) rfl rfl (List.forall_mem_singleton.2 trivial)
    obtain ⟨hinstalling, huntold⟩ := installing_deeds hsofar hdeeds untroubled
    refine ⟨hacts, ?_, lawful_of_untold (hheard.append huntold)⟩
    rwa [List.append_assoc] at hinstalling

/-- Where an acknowledgement can come in, it can until the connection ends. -/
theorem hears_of_acts (h : Installing moments s) (acts : Acts s t)
    (hears : s.device.install ≠ .idle → Hears (layout s.link))
    (install : t.device.install ≠ .idle) : Hears (layout t.link) := by
  have hinstall : s.device.install ≠ .idle := mt (acts.idle h.heeded) install
  have hopened : s.state = .initialized := by
    by_contra hclosed
    exact hinstall (h.stands.of_closed hclosed).1
  rw [(acts.moves.same (h.authenticated hopened)).2]
  exact hears hinstall

theorem carried_hearing (h : Installing moments s) (host : HostView) (payloads : List Inbound)
    (hears : ∀ ack, .uploadAck ack ∈ payloads → s.device.install ≠ .idle → Hears (layout s.link))
    (untroubled : Untroubled (hearing host s payloads)) :
    Carried moments (hearing host s payloads) s
      (payloads.foldl (fun s payload => s.handleInbound host payload) s) := by
  induction payloads generalizing s moments with
  | nil => exact .refl h
  | cons inbound payloads ih =>
      obtain ⟨hfirst, hrest⟩ := untroubled_append.1 untroubled
      have hcarried := carried_handleInbound h host inbound
        (fun ack heq => hears ack (heq ▸ List.mem_cons_self))
        (fun moment hmem => hfirst moment (List.mem_cons_of_mem _ hmem))
      -- The first payload may have ended the connection, but then nothing is installed any more.
      refine hcarried.trans (ih hcarried.installing ?_ hrest)
      intro ack hmem
      exact hears_of_acts h hcarried.acts (hears ack (List.mem_cons_of_mem _ hmem))

theorem carried_receiving (h : Installing moments s) (host : HostView) (endpoint : Endpoint)
    (data : Bytes) (untroubled : Untroubled (s.receiving host endpoint data)) :
    Carried moments (s.receiving host endpoint data) s (s.receiveNow host endpoint data) := by
  have hlayout := layout_receive s.link endpoint data s.handshake.cipher?
  have hreceived : Installing moments
      { s with link := (Link.receive s.link endpoint data s.handshake.cipher?).1 } :=
    h.alike ⟨hlayout, rfl, .refl _, rfl⟩ rfl rfl
  refine .head (.receive s endpoint data) (carried_hearing hreceived host _ ?_ untroubled)
  intro ack hmem _
  rw [hlayout]
  exact hears_of_receive hmem

theorem carried_resynced (h : Installing moments s) (lost : Bool) :
    Carried moments [] s (s.resynced lost) := by
  cases lost with
  | false => exact .refl h
  | true =>
      exact .head (.resync s) (.refl (h.alike ⟨layout_resync s.link, rfl, .refl _, rfl⟩ rfl rfl))

theorem carried_processing (h : Installing moments s) (host : HostView) (n : Nat)
    (untroubled : Untroubled (processing host n s)) :
    Carried moments (processing host n s) s (processAtMost host n s) := by
  induction n generalizing s moments with
  | zero => exact .refl h
  | succ n ih =>
      rw [processing] at untroubled ⊢
      rw [processAtMost]
      cases hnext : s.inbox.next? with
      | none => exact .refl h
      | some next =>
          obtain ⟨chunk, inbox⟩ := next
          simp only [hnext, processChunk_eq_receiveNow] at untroubled ⊢
          obtain ⟨hfirst, hrest⟩ := untroubled_append.1 untroubled
          have hinbox : Installing moments { s with inbox := inbox } :=
            h.alike ⟨rfl, rfl, .refl _, rfl⟩ rfl rfl
          have hresynced := carried_resynced hinbox chunk.resync
          have hreceived := hresynced.trans
            (carried_receiving hresynced.installing host chunk.endpoint chunk.data hfirst)
          exact .head (.inbox s inbox) (hreceived.trans (ih hreceived.installing hrest))

theorem carried_onReceive (h : Installing moments s) (host : HostView) (endpoint : Endpoint)
    (data : Bytes) (untroubled : Untroubled (s.moments (.receive host endpoint data))) :
    Carried moments (s.moments (.receive host endpoint data)) s
      (s.onReceive host endpoint data) := by
  obtain ⟨hpending, hread⟩ := untroubled_append.1 untroubled
  have hprocessed := carried_processing h host s.inbox.chunks.length hpending
  have hinbox : Installing (moments ++ processing host s.inbox.chunks.length s)
      { s.processPending host with inbox := (s.processPending host).inbox.takeLost.1 } :=
    hprocessed.installing.alike ⟨rfl, rfl, .refl _, rfl⟩ rfl rfl
  have hresynced := carried_resynced hinbox (s.processPending host).inbox.takeLost.2
  have hreceived := hresynced.trans
    (carried_receiving hresynced.installing host endpoint data hread)
  exact hprocessed.trans (.head (.inbox _ _) hreceived)

/-! ## What a call carries -/

omit [Radio R] in
theorem Installing.ready (h : Installing moments s) :
    Fits (layout s.ready.link) ∧ s.ready.registry.services = [] ∧ s.ready.device.install = .idle ∧
      s.ready.upload = {} := by
  rcases s.ready_cases with ⟨hstate, hready⟩ | hready
  · obtain ⟨hinstall, hupload⟩ := h.stands.of_closed (by rw [hstate]; nofun)
    rw [hready]
    exact ⟨h.fits, h.builtIn, hinstall, hupload⟩
  · rw [hready]
    exact ⟨fits_teardown _ h.fits,
      s.registry.alike_onDisconnect.services_eq_nil_iff.2 h.builtIn, rfl, rfl⟩

theorem installing_connect (h : Installing moments s) (discovery : Discovery) (nonce : Octets 16) :
    Installing more (s.connect discovery nonce).1 := by
  obtain ⟨hfits, hbuiltIn, hinstall, hupload⟩ := h.ready
  have hbound {link : L} {mode : Except LinkError HandshakeMode}
      (bound : Link.bind s.ready.link discovery = (link, mode)) : Fits (layout link) := by
    have hfits := fits_bind _ discovery hfits
    rwa [bound] at hfits
  have hgreeted {link next : L} {hello : Command} {mode : HandshakeMode} {op : RadioOp}
      (bound : Link.bind s.ready.link discovery = (link, .ok mode))
      (written : (Link.writeCommand (Link.resetCounters link) hello none).Puts next op) :
      Fits (layout next) := by
    rw [layout_writeCommand written, layout_resetCounters]
    exact hbound bound
  have hconnected := s.connected discovery nonce
  generalize (s.connect discovery nonce).1 = t at hconnected ⊢
  cases hconnected with
  | unbound bound given =>
      refine Settled.idle ⟨hbuiltIn, hbound bound, fun hopened => ?_⟩ hinstall hupload
      rcases given with rfl | rfl <;> cases hopened
  | unwritten bound written =>
      refine Settled.idle ⟨(Registry.alike_onDisconnect _).services_eq_nil_iff.2 hbuiltIn,
        fits_teardown _ ?_, nofun⟩ rfl rfl
      rw [introduced, layout_resetCounters]
      exact hbound bound
  | refused bound written =>
      exact Settled.idle ⟨(Registry.alike_onDisconnect _).services_eq_nil_iff.2 hbuiltIn,
        fits_teardown _ (hgreeted bound written), nofun⟩ rfl rfl
  | greeted bound written =>
      exact Settled.idle ⟨hbuiltIn, hgreeted bound written, nofun⟩ hinstall hupload

omit [CipherSuite] [BulkReading L] in
theorem untold_connect (s : Session L S R) (discovery : Discovery) (nonce : Octets 16) :
    Untold (news s (s.connect discovery nonce).1) := by
  have htold {t : Session L S R} (later : List Effect)
      (heffects : t.effects = later ++ s.ready.effects)
      (h : ∀ text, .told (.installStatus text true) ∉ later) : Untold (news s t) := by
    rw [effects_ready, List.append_cons] at heffects
    exact untold_news _ heffects (by simpa using h)
  have hconnected := s.connected discovery nonce
  generalize (s.connect discovery nonce).1 = t at hconnected ⊢
  cases hconnected with
  | @unbound _ _ state => exact htold [.told (.connectionState state)] rfl (by simp)
  | unwritten => exact htold [.told (.connectionState .notConnected)] rfl (by simp)
  | refused =>
      refine htold [.told (.connectionState .notConnected), _] rfl fun text => ?_
      split <;> simp
  | greeted =>
      refine htold [.told (.connectionState .initializing), _] rfl fun text => ?_
      split <;> simp

omit [Service S] in
/-- The host asks for an installation. -/
theorem installing_requested (h : Installing moments s) (image : FirmwareImage)
    (initialized : s.state = .initialized) (idle : s.device.install = .idle) :
    Installing (moments ++ .installing image :: news s (s.requested image)) (s.requested image) ∧
      Untold (.installing image :: news s (s.requested image)) := by
  have hupload : s.upload = {} := by
    cases h.stands with
    | idle _ upload => exact upload
    | requested install => cases idle.symm.trans install
    | agreed install => cases idle.symm.trans install
    | sending install => cases idle.symm.trans install
  let asking : Session L S R := { s with device := { s.device with install := .requested image } }
  have hnews : ∀ moment ∈ news s (s.requested image), s.Unremarkable moment :=
    unremarkable_send asking _ _
  have halike : Alike s (s.requested image) := by
    have hsent := alike_send asking s!"install firmware {image.version}" (installRequest image)
    exact ⟨hsent.layout, hsent.handshake, hsent.registry, hsent.state⟩
  have hbegun : Begun (moments ++ .installing image :: news s (s.requested image)) image
      (news s (s.requested image)) := ⟨⟨moments, rfl⟩, fun other hmem => hnews _ hmem⟩
  refine ⟨⟨h.toSettled.alike halike,
    .requested ?_ ?_ (halike.state.trans initialized) hbegun ?_⟩, ?_⟩
  · exact congrArg _ (device_send asking _ _)
  · exact (upload_send asking _ _).trans hupload
  · exact fun hears => allParts_eq_nil (halike.quiet hnews hears)
  · intro text hmem
    rcases List.mem_cons.1 hmem with hinstalling | hlater
    · cases hinstalling
    · exact untold_of_unremarkable hnews text hlater

theorem installing_perform (h : Installing moments s) {call : HostCall S R}
    (builtIn : ∀ service, call ≠ .register service) (untroubled : Untroubled (s.moments call)) :
    Installing (moments ++ s.moments call) (s.perform call).1 ∧
      (s.perform call).1.Lawful moments (s.moments call) := by
  have hhappened := s.happened call
  generalize (s.perform call).1 = t at hhappened ⊢
  generalize s.moments call = more at hhappened untroubled ⊢
  have hsame (hmore : more = []) (alike : Alike s t) (upload : t.upload = s.upload)
      (install : t.device.install = s.device.install) :
      Installing (moments ++ more) t ∧ t.Lawful moments more := by
    rw [hmore, List.append_nil]
    exact ⟨h.alike alike upload install, lawful_of_untold fun _ => List.not_mem_nil⟩
  cases hhappened with
  | connect discovery nonce =>
      exact ⟨installing_connect h discovery nonce,
        lawful_of_untold (s.untold_connect discovery nonce)⟩
  | disconnect =>
      have hsettled : s.disconnect.Settled :=
        ⟨s.registry.alike_onDisconnect.services_eq_nil_iff.2 h.builtIn,
          fits_teardown _ h.fits, nofun⟩
      have huntold : Untold (news s s.disconnect) :=
        untold_news [.told (.connectionState .notConnected)] rfl (by simp)
      exact ⟨hsettled.idle rfl rfl, lawful_of_untold huntold⟩
  | mtuChanged mtu => exact hsame rfl ⟨layout_setMtu s.link mtu, rfl, .refl _, rfl⟩ rfl rfl
  | radio radio => exact hsame rfl ⟨rfl, rfl, .refl _, rfl⟩ rfl rfl
  | sendIn written => exact hsame rfl ⟨layout_writeCommand written, rfl, .refl _, rfl⟩ rfl rfl
  | register service => exact absurd rfl (builtIn service)
  | @install image initialized idle =>
      obtain ⟨hinstalling, huntold⟩ := installing_requested h image initialized idle
      exact ⟨hinstalling, lawful_of_untold huntold⟩
  | inbox inbox => exact hsame rfl ⟨rfl, rfl, .refl _, rfl⟩ rfl rfl
  | deeds deeds =>
      obtain ⟨hinstalling, huntold⟩ := installing_deeds h deeds untroubled
      exact ⟨hinstalling, lawful_of_untold huntold⟩
  | processPending host =>
      have hprocessed := carried_processing h host _ untroubled
      exact ⟨hprocessed.installing, hprocessed.lawful⟩
  | receive host endpoint data =>
      have hreceived := carried_onReceive h host endpoint data untroubled
      exact ⟨hreceived.installing, hreceived.lawful⟩

/-! ## What a run carries -/

theorem installing_run (h : Installing [] s) (calls : List (HostCall S R))
    (builtIn : ∀ service, .register service ∉ calls) (untroubled : Untroubled (s.record calls)) :
    Installing (s.record calls) (s.run calls) := by
  induction calls using List.reverseRecOn with
  | nil => exact h
  | append_singleton calls call ih =>
      rw [record_snoc] at untroubled ⊢
      rw [run_snoc]
      obtain ⟨hsofar, hlast⟩ := untroubled_append.1 untroubled
      have hfound := ih (fun service hmem => builtIn service (List.mem_append_left _ hmem)) hsofar
      -- What a call did is cleared by the next one, and only the record still has it.
      refine (installing_perform hfound.clearEffects ?_ hlast).1
      rintro service rfl
      exact builtIn service (List.mem_append_right _ (List.mem_singleton_self _))

/-- What the last call did is on record, and every installation that it reported done was delivered
since it was asked for, in this reading of the operations. -/
structure Truthful (start : Session L S R) (calls : List (HostCall S R)) (call : HostCall S R)
    (read : RadioOp → Option Bytes) : Prop where
  recorded : (start.run (calls ++ [call])).effects.reverse =
    ((start.run calls).clearEffects.moments call).filterMap Moment.effect?
  delivered : ∀ before text after, (start.run calls).clearEffects.moments call =
      before ++ .did (.told (.installStatus text true)) :: after →
    ∃ image since, Begun (start.record calls ++ before) image since ∧
      Delivered read (Upload.blob Upload.firmwareKind image.bytes) since

/-- In the last call an installation is reported done, and it was delivered. -/
def Delivers (start : Session L S R) (calls : List (HostCall S R)) (call : HostCall S R)
    (read : RadioOp → Option Bytes) : Prop :=
  ∃ before text after image since, (start.run calls).clearEffects.moments call =
      before ++ .did (.told (.installStatus text true)) :: after ∧
    Begun (start.record calls ++ before) image since ∧
    Delivered read (Upload.blob Upload.firmwareKind image.bytes) since

omit [BulkReading L] in
theorem Truthful.delivers {start : Session L S R} {calls : List (HostCall S R)}
    {call : HostCall S R} {read : RadioOp → Option Bytes} (h : Truthful start calls call read)
    {text : String} (reported : .did (.told (.installStatus text true)) ∈
      (start.run calls).clearEffects.moments call) : Delivers start calls call read := by
  obtain ⟨before, after, hsplit⟩ := List.append_of_mem reported
  obtain ⟨image, since, hbegun, hdelivered⟩ := h.delivered before text after hsplit
  exact ⟨before, text, after, image, since, hsplit, hbegun, hdelivered⟩

theorem truthful {start : Session L S R} {link : L} {radio : R} {config : LinkConfig}
    {capabilities : Capabilities} (hstart : ofConfig link radio config capabilities = .ok start)
    (hfits : Fits (layout link)) {calls : List (HostCall S R)} {call : HostCall S R}
    (builtIn : ∀ service, .register service ∉ calls ++ [call])
    (untroubled : Untroubled (start.record (calls ++ [call]))) :
    Truthful start calls call (start.run (calls ++ [call])).reading := by
  rw [record_snoc] at untroubled
  rw [run_snoc]
  obtain ⟨hsofar, hlast⟩ := untroubled_append.1 untroubled
  have hfound := installing_run (installing_ofConfig hstart hfits) calls
    (fun service hmem => builtIn service (List.mem_append_left _ hmem)) hsofar
  have hcall (service : S) (heq : call = .register service) : False :=
    builtIn service (List.mem_append_right _ (heq ▸ List.mem_singleton_self _))
  have hlawful := (installing_perform hfound.clearEffects hcall hlast).2
  constructor
  · rw [run_snoc, effect?_moments]
    rfl
  · intro before text after hsplit
    exact (hlawful before text after hsplit).2

end

/-- In a run with built-in services only, in which no transaction was refused, an installation that
is reported done was written whole: the upload parts that went out since the host asked for it, as
the other end reads them, are those of the image, each acknowledged before the next was written. -/
theorem delivered_of_reported {S R : Type} [CipherSuite] [Service S] [Radio R] :
    (∀ (link : StreamLink) (radio : R) config capabilities (start : Session StreamLink S R),
      ofConfig link radio config capabilities = .ok start → link.chunkSize ≤ Frame.maxPayload →
      ∀ calls call, (∀ service, .register service ∉ calls ++ [call]) →
      Untroubled (start.record (calls ++ [call])) →
      Truthful start calls call StreamLink.part?) ∧
    ∀ (link : GattLink) (radio : R) config capabilities (start : Session GattLink S R),
      ofConfig link radio config capabilities = .ok start →
      ∀ calls call, (∀ service, .register service ∉ calls ++ [call]) →
      Untroubled (start.record (calls ++ [call])) →
      Truthful start calls call (GattLink.part? (start.run (calls ++ [call])).link.layout
        (start.run (calls ++ [call])).handshake.keys?) :=
  ⟨fun _ _ _ _ _ hstart hfits _ _ => truthful hstart hfits,
    fun _ _ _ _ _ hstart _ _ => truthful hstart trivial⟩

/-! ## Two installations -/

/-- The watch acknowledges a part over its characteristics. -/
def acknowledgement (index : UInt8) : HostCall DeviceService RadioQueue :=
  .receive bareHost (.resource (.ofShort 0x0004)) [0, index, 0]

/-- An installation over characteristics, up to the last acknowledgement. -/
def clearTextInstall : List (HostCall DeviceService RadioQueue) :=
  meeting ++ [.installFirmware smallImage, agreement, go, acknowledgement 1, acknowledgement 2]

/-- A session that will find a watch over a stream. -/
def streamStart : Session StreamLink DeviceService RadioQueue where
  link := {}
  radio := {}
  handshake :=
    { secret := .zero 16, userId := bareConfig.userId, phoneInfo := bareConfig.phoneInfo }
  device := .ofConfig {} bareConfig

/-- The watch sends a frame. -/
def frameFromWatch (frame : Frame) : HostCall DeviceService RadioQueue :=
  .receive bareHost .stream frame.octets

/-- An installation over a stream, up to the last acknowledgement. -/
def streamInstall [CipherSuite] : List (HostCall DeviceService RadioQueue) :=
  pairing bareHost (.zero 16) (.zero 16) (.replicate 16 1) ++ [.installFirmware smallImage,
    frameFromWatch (authFrame ⟨Command.systemKind, DeviceService.installSubtype,
      .system (.installResponse 0)⟩),
    frameFromWatch (authFrame ⟨Command.uploadKind, Upload.startSubtype, .upload (.ack 0 20)⟩),
    frameFromWatch (StreamLink.bulkFrame [0, 1, 0]),
    frameFromWatch (StreamLink.bulkFrame [0, 2, 0])]

/-- A suite that is quick to run: blocks stay as they are, and every digest is zeros. -/
abbrev blankSuite : CipherSuite := ⟨fun _ block => block, fun _ _ => .zero 32⟩

theorem delivered_of_reported_twice :
    Delivers clearTextStart clearTextInstall (acknowledgement 3)
      (GattLink.part? (clearTextStart.run (clearTextInstall ++ [acknowledgement 3])).link.layout
        (clearTextStart.run (clearTextInstall ++ [acknowledgement 3])).handshake.keys?) ∧
    letI := blankSuite
    Delivers streamStart streamInstall (frameFromWatch (StreamLink.bulkFrame [0, 3, 0]))
      StreamLink.part? := by
  constructor
  · have hreported : .did (.told (.installStatus "Update complete" true)) ∈
        (clearTextStart.run clearTextInstall).clearEffects.moments (acknowledgement 3) := by
      decide +kernel
    refine (delivered_of_reported.2 {} {} bareConfig {} clearTextStart ofConfig_clearTextStart _ _
      ?_ ?_).delivers hreported
    · simp [clearTextInstall, meeting, commandFromWatch, agreement, go, acknowledgement]
    · decide +kernel
  · let := blankSuite
    have hreported : .did (.told (.installStatus "Update complete" true)) ∈
        (streamStart.run streamInstall).clearEffects.moments
          (frameFromWatch (StreamLink.bulkFrame [0, 3, 0])) := by decide +kernel
    refine (delivered_of_reported.1 {} {} bareConfig {} streamStart rfl ?_ _ _ ?_ ?_).delivers
      hreported
    · decide
    · simp [streamInstall, pairing, approach, frameFromWatch]
    · decide +kernel

end WatchLink.Session
