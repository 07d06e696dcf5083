import WatchLink.Proofs.Session.Waiting

/-!
# What the host is told

What the host is told on the way from one session to another is read off what was done. It is
nothing when commands and parts are sent, the end of an installation when an upload is over, and a
state of the connection only when the connection comes to it; so the state that was told last is the
one the connection is in. Services that a host has added may tell whatever they like. What can be
said of all they tell, `Hosts`, stays so, since no call but the adding of a service can bring any
where there were none.
-/

namespace WatchLink

def Effect.event? : Effect → Option Event
  | .told event => some event
  | .submitted _ | .refused _ => none

def Moment.event? (moment : Moment) : Option Event := moment.effect?.bind Effect.event?

/-- The state of the connection that an event tells. -/
def Event.state? : Event → Option ConnectionState
  | .connectionState state => some state
  | _ => none

/-- The outbox leaves it to the session to tell how the connection stands. -/
abbrev Outbox.TellsNoState (out : Outbox) : Prop := ∀ event ∈ out.events, event.state? = none

/-- How the end of an installation is told. -/
def DeviceService.ending (s : DeviceService) (success : Bool) : List Event :=
  [.installStatus (if success then s.messages.updateComplete else s.messages.writeFailed) success,
    .busy none]

/-- The state of the connection by what was told since it was in this one: the last that was
told. -/
def ConnectionState.after (state : ConnectionState) (events : List Event) : ConnectionState :=
  (events.filterMap Event.state?).getLastD state

theorem ConnectionState.after_append (state : ConnectionState) (events more : List Event) :
    state.after (events ++ more) = (state.after events).after more := by
  simp only [after, List.filterMap_append, List.getLastD_eq_getLast?, List.getLast?_append]
  cases (more.filterMap Event.state?).getLast? <;> rfl

/-- No state was told, or the last that was told is among what was told. -/
theorem ConnectionState.after_eq_or_mem (state : ConnectionState) (events : List Event) :
    state.after events = state ∨ .connectionState (state.after events) ∈ events := by
  rw [after, List.getLastD_eq_getLast?]
  cases hlast : (events.filterMap Event.state?).getLast? with
  | none => exact .inl rfl
  | some last =>
      obtain ⟨event, hmem, hstate⟩ := List.mem_filterMap.1 (List.mem_of_getLast? hlast)
      cases event with
      | connectionState told =>
          obtain rfl := Option.some.inj hstate
          exact .inr hmem
      | _ => cases hstate

namespace Session

section

variable {L S R : Type}

/-- What was told on the way from one session to another. -/
def told (s t : Session L S R) : List Event := (news s t).filterMap Moment.event?

theorem told_of_eq {s t : Session L S R} (more : List Effect) (h : t.effects = more ++ s.effects) :
    told s t = more.reverse.filterMap Effect.event? := by
  rw [told, news_of_eq h, List.filterMap_map]
  rfl

theorem told_of_effects {s t : Session L S R} (h : t.effects = s.effects) : told s t = [] :=
  told_of_eq [] h

theorem told_trans {s t u : Session L S R} (hst : s.effects <:+ t.effects)
    (htu : t.effects <:+ u.effects) : told s u = told s t ++ told t u := by
  rw [told, news_trans hst htu, List.filterMap_append]
  rfl

theorem told_tell (s : Session L S R) (event : Event) : told s (s.tell event) = [event] :=
  told_of_eq [.told event] rfl

theorem told_updating (s : Session L S R) (image : FirmwareImage) :
    told s (s.updating image) = [.busy (some s.device.messages.updatingFirmware)] :=
  told_of_eq [.told _] rfl

theorem told_setState {s t : Session L S R} (h : s.effects <:+ t.effects)
    (state : ConnectionState) :
    told s (t.setState state) = told s t ++ [.connectionState state] := by
  rw [told_trans h (List.suffix_cons _ _)]
  congr 1
  exact told_tell { t with state := state } _

theorem told_submit [Radio R] (s : Session L S R) (transaction : Transaction) :
    told s (s.submit transaction).1 = [] := by
  rw [told]
  rcases news_submit s transaction with h | h <;> rw [h] <;> rfl

theorem told_send [CipherSuite] [Link L] [Radio R] (s : Session L S R) (task : String)
    (command : Command) : told s (s.send task command).1 = [] := by
  rcases send_cases s task command with h | ⟨link, op, -, h⟩
  · exact told_of_effects (congrArg effects h)
  · rw [h]
    exact told_submit { s with link := link } _

end

/-! ## Uploads -/

section

variable {L S R : Type} [CipherSuite] [Link L] [Radio R]

theorem told_finishUpload (s : Session L S R) (listener : UploadListener) (success : Bool) :
    told s (s.finishUpload listener success) = s.device.ending success := by
  cases listener
  exact told_of_eq ((s.device.ending success).reverse.map .told) rfl

theorem told_stopped (s : Session L S R) (success : Bool) :
    told s (s.stopped success) = s.device.ending success :=
  told_finishUpload { s with upload := {} } .deviceService success

/-- Of an upload that ends with a last word to the radio only the end is told. -/
theorem told_submit_stopped (s : Session L S R) (transaction : Transaction) (success : Bool) :
    told s ((s.submit transaction).1.stopped success) = s.device.ending success := by
  rw [told_trans (List.suffix_cons _ _) (effects_stopped _ _), told_submit, told_stopped]
  rfl

theorem effects_startUpload (s : Session L S R) (request : UploadRequest) :
    s.effects <:+ (s.startUpload request).effects := by
  have hsend := effects_send (s.awaiting request) "upload request"
    (uploadRequest request.kind request.bytes)
  have hstarted := uploadStarted s request
  generalize s.startUpload request = t at hstarted ⊢
  cases hstarted with
  | busy =>
      cases request.listener
      exact effects_stopped s false
  | unsent => exact hsend.trans (effects_stopped _ _)
  | sent => exact hsend

/-- Of the start of an upload only its failure is told. -/
theorem told_startUpload (s : Session L S R) (request : UploadRequest) :
    (told s (s.startUpload request) = [] ∧ (s.startUpload request).upload.job.isSome = true) ∨
    (told s (s.startUpload request) = s.device.ending false ∧
      ((s.startUpload request).upload = s.upload ∨ (s.startUpload request).upload = {})) := by
  have hsent := told_send (s.awaiting request) "upload request"
    (uploadRequest request.kind request.bytes)
  have hstarted := uploadStarted s request
  generalize s.startUpload request = t at hstarted ⊢
  cases hstarted with
  | busy =>
      refine .inr ⟨told_finishUpload s request.listener false, .inl ?_⟩
      cases request.listener
      rfl
  | unsent =>
      refine .inr ⟨?_, .inr rfl⟩
      have hsend := effects_send (s.awaiting request) "upload request"
        (uploadRequest request.kind request.bytes)
      have hdevice := device_send (s.awaiting request) "upload request"
        (uploadRequest request.kind request.bytes)
      generalize (s.awaiting request).send "upload request"
        (uploadRequest request.kind request.bytes) = sent at hsent hsend hdevice ⊢
      have htold : told (s.awaiting request) (sent.1.stopped false) = s.device.ending false := by
        rw [told_trans hsend (effects_stopped _ _), hsent, told_stopped, hdevice]
        rfl
      exact htold
  | sent =>
      refine .inl ⟨hsent, ?_⟩
      rw [upload_send]
      rfl

/-- Of an answer to an upload only its end is told. -/
theorem Uploaded.told {s t : Session L S R} {ack : Option Bytes} (uploaded : Uploaded s ack t) :
    Session.told s t = [] ∨ ∃ success, Session.told s t = s.device.ending success := by
  cases uploaded with
  | ignored => exact .inl (told_of_effects rfl)
  | stopped => exact .inr ⟨false, told_stopped s false⟩
  | first => exact .inl (told_submit _ _)
  | next => exact .inl (told_submit _ _)
  | completed => exact .inr ⟨true, told_submit_stopped s _ true⟩

end

/-! ## Services of the host -/

section

variable {L S R : Type} [CipherSuite] [Link L] [Service S] [Radio R]

/-- If the host has added services, this holds of all they put into an outbox. -/
def Hosts (P : Outbox → Prop) (s : Session L S R) : Prop :=
  s.registry.services ≠ [] → ∀ out, Service.Fills S out → P out

omit [CipherSuite] [Link L] [Radio R] in
theorem Hosts.of_alike {P : Outbox → Prop} {s t : Session L S R} (h : s.Hosts P)
    (alike : s.registry.Alike t.registry) : t.Hosts P :=
  fun hadded => h (mt alike.services_eq_nil_iff.2 hadded)

theorem Act.alike {s t : Session L S R} (act : Act s t) : s.registry.Alike t.registry :=
  (Acts.moves (.single act)).alike

theorem Hosts.act {P : Outbox → Prop} {s t : Session L S R} (h : s.Hosts P) (act : Act s t) :
    t.Hosts P := h.of_alike act.alike

omit [CipherSuite] [Link L] [Radio R] in
/-- The events of services that were added are as those services are. -/
theorem Hosts.tells {P : Event → Prop} {s : Session L S R}
    (h : s.Hosts fun out => ∀ event ∈ out.events, P event) {event : Event}
    (own : s.registry.MayTell event) : P event := by
  obtain ⟨hadded, out, hfills, hmem⟩ := own
  exact h hadded out hfills event hmem

theorem Hosts.perform {P : Outbox → Prop} {s : Session L S R} (h : s.Hosts P)
    (call : HostCall S R)
    (hadded : ∀ service, call = .register service → ∀ out, Service.Fills S out → P out) :
    (s.perform call).1.Hosts P := by
  have hperformed := s.performed call
  generalize s.perform call = result at hperformed ⊢
  cases hperformed with
  | connect discovery nonce => exact h.of_alike (alike_connect s discovery nonce)
  | disconnect => exact h.of_alike s.registry.alike_onDisconnect
  | mtuChanged => exact h
  | radio => exact h
  | sendIn => exact h
  | register service => exact fun _ => hadded service rfl
  | moved moves => exact h.of_alike moves.alike

/-- A run that adds only services of this kind, or none. -/
theorem Hosts.run {P : Outbox → Prop} {s : Session L S R} (h : s.Hosts P)
    (calls : List (HostCall S R))
    (hadded : ∀ service, .register service ∈ calls → ∀ out, Service.Fills S out → P out) :
    (s.run calls).Hosts P := by
  refine run_keep (P := fun t => t.Hosts P) calls h fun t hhosts call hmem => ?_
  have hclear : t.clearEffects.Hosts P := hhosts
  refine hclear.perform call ?_
  rintro service rfl
  exact hadded service hmem

omit [CipherSuite] [Link L] [Radio R] in
theorem hosts_ofConfig {P : Outbox → Prop} {link : L} {radio : R} {config : LinkConfig}
    {capabilities : Capabilities} {s : Session L S R}
    (hs : ofConfig link radio config capabilities = .ok s) : s.Hosts P := by
  obtain ⟨secret, rfl⟩ := eq_of_ofConfig hs
  exact fun hadded => absurd rfl hadded

/-! ## The state that was told last -/

/-- A state that was told last is the session's own, or one that a service of the host may tell. -/
def Names (s : Session L S R) (last : ConnectionState) : Prop :=
  last = s.state ∨ s.registry.MayTell (.connectionState last)

omit [CipherSuite] [Link L] [Radio R] in
/-- What came of no state of its own told none but those of services. -/
theorem Names.of_stateless {s t : Session L S R} {last : ConnectionState} (h : s.Names last)
    (state : t.state = s.state) (alike : s.registry.Alike t.registry)
    (own : ∀ state, .connectionState state ∈ told s t →
      s.registry.MayTell (.connectionState state)) : t.Names (last.after (told s t)) := by
  rcases last.after_eq_or_mem (told s t) with hsame | hmem
  · rw [hsame, Names, state]
    exact h.imp_right (Registry.MayTell.of_alike · alike)
  · exact .inr ((own _ hmem).of_alike alike)

omit [CipherSuite] [Link L] [Radio R] in
theorem names_setState {s t : Session L S R} (h : s.effects <:+ t.effects)
    (last state : ConnectionState) :
    (t.setState state).Names (last.after (told s (t.setState state))) := by
  rw [told_setState h, ConnectionState.after_append]
  exact .inl rfl

omit [CipherSuite] [Service S] in
theorem told_opened (s : Session L S R) (handshake : Handshake) :
    told s (s.opened handshake) = [.connectionState .initialized] := by
  rw [opened, told_setState (List.suffix_cons _ _)]
  exact congrArg (· ++ [Event.connectionState .initialized])
    (told_submit { s with handshake := handshake, link := Link.resetCounters s.link } _)

omit [CipherSuite] [Radio R] in
theorem told_refused (s : Session L S R) (handshake : Handshake) :
    told s (s.refused handshake) = [.authenticationFailed, .connectionState .notConnected] :=
  told_of_eq [.told (.connectionState .notConnected), .told .authenticationFailed] rfl

/-- An act comes to a state and tells it, or it tells none but those of services. -/
theorem stateless_act {s t : Session L S R} (act : Act s t) (heeded : s.Heeded) :
    (t.state = s.state ∧ ∀ state, .connectionState state ∈ told s t →
        s.registry.MayTell (.connectionState state)) ∨
      (∃ handshake, t = s.opened handshake) ∨ ∃ handshake, t = s.refused handshake := by
  have hending {t : Session L S R} (hstate : t.state = s.state)
      (h : told s t = [] ∨ ∃ success, told s t = s.device.ending success) :
      t.state = s.state ∧ ∀ state, .connectionState state ∈ told s t →
        s.registry.MayTell (.connectionState state) := by
    refine ⟨hstate, fun state hmem => ?_⟩
    rcases h with h | ⟨success, h⟩ <;> simp [h, DeviceService.ending] at hmem
  have hsilent {t : Session L S R} (hstate : t.state = s.state) (heffects : t.effects = s.effects) :
      t.state = s.state ∧ ∀ state, .connectionState state ∈ told s t →
        s.registry.MayTell (.connectionState state) :=
    hending hstate (.inl (told_of_effects heffects))
  have hstarted (s : Session L S R) (request : UploadRequest) :
      told s (s.startUpload request) = [] ∨
        ∃ success, told s (s.startUpload request) = s.device.ending success :=
    (told_startUpload s request).imp And.left fun h => ⟨false, h.1⟩
  cases act with
  | acknowledge ack =>
      have huploaded := uploaded_ack heeded ack
      exact .inl (hending huploaded.standing.2 huploaded.told)
  | inbox => exact .inl (hsilent rfl rfl)
  | receive => exact .inl (hsilent rfl rfl)
  | resync => exact .inl (hsilent rfl rfl)
  | deed deed =>
      cases deed with
      | tell event own =>
          refine .inl ⟨rfl, fun state hmem => ?_⟩
          rw [told_tell] at hmem
          obtain rfl := List.mem_singleton.1 hmem
          exact own rfl
      | device => exact .inl (hsilent rfl rfl)
      | registry => exact .inl (hsilent rfl rfl)
      | send task command =>
          exact .inl (hending (state_send s task command) (.inl (told_send s task command)))
      | startUpload request =>
          exact .inl (hending (standing_startUpload s request).2 (hstarted s request))
      | @agree image =>
          refine .inl ⟨(standing_startUpload _ _).2, fun state hmem => ?_⟩
          rw [agreed, told_trans (List.suffix_cons _ _) (effects_startUpload _ _),
            told_updating] at hmem
          rcases hstarted (s.updating image) ⟨Upload.firmwareKind, image.bytes, .deviceService⟩ with
            h | ⟨success, h⟩ <;> simp [h, DeviceService.ending] at hmem
      | decline => exact .inl (hsilent rfl rfl)
      | command handled =>
          have huploaded := uploaded_command heeded handled
          exact .inl (hending huploaded.standing.2 huploaded.told)
      | @answer _ reply handshake =>
          exact .inl (hending (state_send _ _ _)
            (.inl (told_send { s with handshake := handshake } "auth step" reply)))
      | @accept _ handshake => exact .inr (.inl ⟨handshake, rfl⟩)
      | @refuse _ handshake => exact .inr (.inr ⟨handshake, rfl⟩)

theorem Names.act {s t : Session L S R} {last : ConnectionState} (h : s.Names last)
    (act : Act s t) (heeded : s.Heeded) : t.Names (last.after (told s t)) := by
  rcases stateless_act act heeded with ⟨hstate, hown⟩ | ⟨handshake, rfl⟩ | ⟨handshake, rfl⟩
  · exact h.of_stateless hstate act.alike hown
  · rw [told_opened]
    exact .inl rfl
  · rw [told_refused]
    exact .inl rfl

theorem Names.acts {s t : Session L S R} {last : ConnectionState} (h : s.Names last)
    (acts : Acts s t) (heeded : s.Heeded) : t.Names (last.after (told s t)) := by
  have hkeep : t.Heeded ∧ s.effects <:+ t.effects ∧ t.Names (last.after (told s t)) := by
    refine acts.keep (P := fun t => t.Heeded ∧ s.effects <:+ t.effects ∧
      t.Names (last.after (told s t))) ?_ ⟨heeded, List.suffix_rfl, ?_⟩
    · rintro t u act ⟨hheeded, heffects, hnames⟩
      have hnext := (Acts.moves (.single act)).effects
      refine ⟨hheeded.act t u act, heffects.trans hnext, ?_⟩
      rw [told_trans heffects hnext, ConnectionState.after_append]
      exact hnames.act act hheeded
    · rw [told_of_effects rfl]
      exact h
  exact hkeep.2.2

omit [CipherSuite] in
theorem names_connect (s : Session L S R) (discovery : Discovery) (nonce : Octets 16)
    (last : ConnectionState) :
    (s.connect discovery nonce).1.Names (last.after (told s (s.connect discovery nonce).1)) := by
  have hready : s.effects <:+ s.ready.effects := by
    rw [effects_ready]
    exact List.suffix_cons _ _
  have hconnected := s.connected discovery nonce
  generalize (s.connect discovery nonce).1 = t at hconnected ⊢
  cases hconnected with
  | unbound => exact names_setState hready last _
  | unwritten => exact names_setState (t := resetConnection _) hready last _
  | refused => exact names_setState (hready.trans (List.suffix_cons _ _)) last _
  | greeted => exact names_setState (hready.trans (List.suffix_cons _ _)) last _

theorem Names.perform {s : Session L S R} {last : ConnectionState} (h : s.Names last)
    (heeded : s.Heeded) (call : HostCall S R) :
    (s.perform call).1.Names (last.after (told s (s.perform call).1)) := by
  have hquiet {t : Session L S R} (state : t.state = s.state)
      (alike : s.registry.Alike t.registry) (untold : told s t = []) :
      t.Names (last.after (told s t)) :=
    h.of_stateless state alike fun state hmem => by simp [untold] at hmem
  have hhappened := s.happened call
  generalize (s.perform call).1 = t at hhappened ⊢
  generalize s.moments call = moments at hhappened
  cases hhappened with
  | connect discovery nonce => exact s.names_connect discovery nonce last
  | disconnect => exact names_setState List.suffix_rfl last _
  | mtuChanged => exact hquiet rfl (.refl _) (told_of_effects rfl)
  | radio => exact hquiet rfl (.refl _) (told_of_effects rfl)
  | sendIn => exact hquiet rfl (.refl _) (told_of_effects rfl)
  | register service =>
      have huntold : told s { s with registry := (s.registry.register service).1 } = [] :=
        told_of_effects rfl
      rw [huntold]
      exact h.imp_right (And.imp_left (Registry.services_register_ne_nil service))
  | @install image =>
      have hsent : told s (s.requested image) = [] :=
        told_send { s with device := { s.device with install := .requested image } } _ _
      refine hquiet (state_send _ _ _) ?_ hsent
      rw [requested, registry_send]
      exact .refl _
  | inbox => exact hquiet rfl (.refl _) (told_of_effects rfl)
  | deeds deeds => exact h.acts deeds.acts heeded
  | processPending host => exact h.acts (acts_processAtMost host _ s) heeded
  | receive host endpoint data => exact h.acts (acts_onReceive s host endpoint data) heeded

/-- What is told in a call, read off its record. -/
theorem event?_moments (s : Session L S R) (call : HostCall S R) :
    (s.moments call).filterMap Moment.event? = told s (s.perform call).1 := by
  have heffects := congrArg List.reverse (s.effect?_moments call)
  rw [List.reverse_append, List.reverse_reverse, List.reverse_reverse] at heffects
  rw [told_of_eq _ heffects, List.reverse_reverse, List.filterMap_filterMap]
  rfl

theorem names_run {start : Session L S R} {link : L} {radio : R} {config : LinkConfig}
    {capabilities : Capabilities} (hstart : ofConfig link radio config capabilities = .ok start)
    (calls : List (HostCall S R)) :
    (start.run calls).Names
      (ConnectionState.after .notConnected ((start.record calls).filterMap Moment.event?)) := by
  have hreachable : start.Reachable := .ofConfig hstart
  induction calls using List.reverseRecOn with
  | nil =>
      obtain ⟨secret, rfl⟩ := eq_of_ofConfig hstart
      exact .inl rfl
  | append_singleton calls call ih =>
      have hclear : (start.run calls).clearEffects.Names
          (ConnectionState.after .notConnected
            ((start.record calls).filterMap Moment.event?)) := ih
      have hheeded : (start.run calls).clearEffects.Heeded := (hreachable.run calls).heeded
      rw [record_snoc, run_snoc, List.filterMap_append, ConnectionState.after_append,
        event?_moments]
      exact hclear.perform hheeded call

end

end Session

end WatchLink
