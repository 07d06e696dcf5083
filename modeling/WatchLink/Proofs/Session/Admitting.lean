import WatchLink.Proofs.Session.Introducing

/-!
# What comes in before the watch has been accepted

A host is refused until the watch has accepted the phone, but nothing that comes in is: payloads go
to whoever answers them in any state of the connection, and so do those of a read in which the watch
has just refused the phone. `Admitted` lists what can come of one. Activity data is told, what the
watch says of itself is noted and told, and services that were added answer as ever. An installation
cannot come about; and where services ask for no uploads and tell nothing of being busy, neither can
an upload.
-/

namespace WatchLink

namespace Registry

variable {S : Type} [Service S]

variable (registry : Registry S) (host : HostView)

/-- Whatever is told in answer to a command that is a service's, that service may have told. -/
theorem mayTell_onCommand (index : Nat) (command : Command) :
    ∀ event ∈ (registry.onCommand index host command).2.1.events, registry.MayTell event := by
  rw [onCommand]
  split
  · rename_i service hservice
    have hadded : registry.services ≠ [] := fun hnone => by
      rw [service?, hnone] at hservice
      cases hservice
    exact fun event hmem => ⟨hadded, _, .command service host command, hmem⟩
  · exact List.forall_mem_nil _

theorem mayTell_onAuthenticated :
    ∀ event ∈ (registry.onAuthenticated host).2.events, registry.MayTell event := by
  rw [onAuthenticated]
  refine List.foldlRecOn
    (motive := fun out : Outbox => ∀ event ∈ out.events, registry.MayTell event) _ _
    (List.forall_mem_nil _) ?_
  intro out hout answer hmem event hevent
  obtain ⟨service, hservice, rfl⟩ := List.mem_map.1 hmem
  rcases List.mem_append.1 hevent with h | h
  · exact hout event h
  · exact ⟨List.ne_nil_of_mem hservice, _, .authenticated service host, h⟩

end Registry

namespace Session

section

variable {L S R : Type} [CipherSuite] [Link L] [Service S] [Radio R] {s t : Session L S R}

/-! ## Where no service disturbs -/

/-- Services that were added stay. -/
theorem services_perform (call : HostCall S R) (h : s.registry.services ≠ []) :
    (s.perform call).1.registry.services ≠ [] := by
  have hperformed := s.performed call
  generalize s.perform call = result at hperformed ⊢
  cases hperformed with
  | connect discovery nonce => exact mt (alike_connect s discovery nonce).services_eq_nil_iff.1 h
  | disconnect => exact mt s.registry.alike_onDisconnect.services_eq_nil_iff.1 h
  | mtuChanged => exact h
  | radio => exact h
  | register service => exact Registry.services_register_ne_nil service h
  | sendIn => exact h
  | moved moves => exact mt moves.alike.services_eq_nil_iff.1 h

/-- As long as no service was added that asks for uploads or tells of being busy, what a session is
occupied with is one of three things. -/
theorem occupied_of_hosts {link : L} {radio : R} {config : LinkConfig} {capabilities : Capabilities}
    {start : Session L S R} (hstart : ofConfig link radio config capabilities = .ok start)
    (calls : List (HostCall S R)) (hosts : (start.run calls).Hosts Outbox.Discreet) :
    (start.run calls).Occupied := by
  induction calls using List.reverseRecOn with
  | nil =>
      obtain ⟨secret, rfl⟩ := eq_of_ofConfig hstart
      exact .free rfl rfl rfl
  | append_singleton calls call ih =>
      rw [run_snoc] at hosts ⊢
      have hbefore : (start.run calls).clearEffects.Hosts Outbox.Discreet := fun hadded =>
        hosts (services_perform call hadded)
      have hclear : (start.run calls).clearEffects.Occupied :=
        (ih hbefore).of_eq rfl rfl rfl id
      exact hclear.perform hbefore call

/-! ## What a payload can come to -/

/-- What can come of a payload to a session that installs nothing. -/
inductive Admitted (s : Session L S R) (host : HostView) : Inbound → Session L S R → Prop
  | dropped (inbound : Inbound) : Admitted s host inbound s
  | activity (bytes : Bytes) : Admitted s host (.activity bytes) (s.tell (.activityData bytes))
  | reported {bytes : Bytes} {command : Command} (read : Command.ofBytes bytes = .ok command)
      (kind : command.kind = Command.systemKind) (plain : (s.device.handle command).2.1.Plain)
      (asks : DeviceService.OnlyBattery (s.device.handle command).2.1)
      (install : (s.device.handle command).1.install = s.device.install) :
      Admitted s host (.command bytes)
        (post { s with device := (s.device.handle command).1 } (s.device.handle command).2.1)
  | served {bytes : Bytes} {command : Command} {index : Nat}
      (read : Command.ofBytes bytes = .ok command)
      (route : s.registry.route command.kind = some (.registered index)) :
      Admitted s host (.command bytes)
        (flush { s with registry := (s.registry.onCommand index host command).1 }
          (s.registry.onCommand index host command).2.1)
  | uploaded (inbound : Inbound) {ack : Option Bytes} {job : UploadJob} {t : Session L S R}
      (running : s.upload.job = some job) (uploaded : Uploaded s ack t) : Admitted s host inbound t
  | answered {bytes : Bytes} {command reply : Command} {handshake : Handshake}
      (read : Command.ofBytes bytes = .ok command)
      (handled : s.handshake.handle command = (handshake, .ok (some (.send reply)))) :
      Admitted s host (.command bytes)
        (send { s with handshake := handshake } "auth step" reply).1
  | accepted {bytes : Bytes} {command : Command} {handshake : Handshake}
      (read : Command.ofBytes bytes = .ok command)
      (handled : s.handshake.handle command = (handshake, .ok (some .authenticated))) :
      Admitted s host (.command bytes) (onAuthenticated { s with handshake := handshake } host)
  | refused {bytes : Bytes} {command : Command} {handshake : Handshake}
      (read : Command.ofBytes bytes = .ok command)
      (handled : s.handshake.handle command = (handshake, .error .authenticationFailed)) :
      Admitted s host (.command bytes) (s.refused handshake)

theorem Uploaded.admitted {ack : Option Bytes} (uploaded : Uploaded s ack t) (host : HostView)
    (inbound : Inbound) : Admitted s host inbound t := by
  cases uploaded with
  | ignored => exact .dropped inbound
  | stopped ack running => exact .uploaded inbound running (.stopped ack running)
  | first running waiting room sized count written =>
      exact .uploaded inbound running (.first running waiting room sized count written)
  | next running out accepts more written =>
      exact .uploaded inbound running (.next running out accepts more written)
  | completed running out accepts =>
      exact .uploaded inbound running (.completed running out accepts)

theorem admitted_handleAuth (s : Session L S R) (host : HostView) {bytes : Bytes}
    {command : Command} (read : Command.ofBytes bytes = .ok command) :
    Admitted s host (.command bytes) (s.handleAuth host command) := by
  have hreplied := s.replied host command
  generalize s.handleAuth host command = t at hreplied ⊢
  cases hreplied with
  | ignored => exact .dropped _
  | refused handled => exact .refused read handled
  | answered handled => exact .answered read handled
  | accepted handled => exact .accepted read handled

theorem admitted_system (idle : s.device.install = .idle) (host : HostView) {bytes : Bytes}
    {command : Command} (read : Command.ofBytes bytes = .ok command)
    (kind : command.kind = Command.systemKind) :
    Admitted s host (.command bytes)
      (flush { s with device := (s.device.handle command).1 } (s.device.handle command).2.1) := by
  have hreacted := s.device.reacted command
  have hkept : (s.device.handle command).1.install = s.device.install ∧
      (s.device.handle command).2.1.Plain := by
    generalize (s.device.handle command).1 = device at hreacted ⊢
    generalize (s.device.handle command).2.1 = out at hreacted ⊢
    cases hreacted with
    | plain install plain => exact ⟨install, plain⟩
    | agreed requested => cases idle.symm.trans requested
    | declined requested => cases idle.symm.trans requested
  rw [flush_of_discreet _ hkept.2.discreet]
  exact .reported read kind hkept.2 (s.device.onlyBattery_handle command) hkept.1

/-- The list is complete. -/
theorem admitted (heeded : s.Heeded) (routed : s.registry.Routed)
    (idle : s.device.install = .idle) (host : HostView) (inbound : Inbound) :
    Admitted s host inbound (s.handleInbound host inbound) := by
  cases inbound with
  | activity bytes => exact .activity bytes
  | uploadAck ack => exact (uploaded_ack heeded ack).admitted host _
  | command bytes =>
      rw [handleInbound]
      split
      · rename_i command read
        rw [dispatch]
        split
        · exact admitted_handleAuth s host read
        · rename_i hroute
          exact admitted_system idle host read ((routed.system _).1 hroute)
        · split
          · rename_i handled
            exact (uploaded_command heeded handled).admitted host _
          · exact .dropped _
        · rename_i hroute
          exact .served read hroute
        · exact .dropped _
      · exact .dropped _

/-! ## What is told, and what becomes of the device service -/

/-- What may be told about a payload. -/
inductive MayBeTold (s : Session L S R) (inbound : Inbound) : Event → Prop
  | state (state : ConnectionState) : MayBeTold s inbound (.connectionState state)
  | failed : MayBeTold s inbound .authenticationFailed
  | activity {bytes : Bytes} (came : inbound = .activity bytes) :
      MayBeTold s inbound (.activityData bytes)
  | reported {bytes : Bytes} {command : Command} {event : Event} (came : inbound = .command bytes)
      (read : Command.ofBytes bytes = .ok command) (kind : command.kind = Command.systemKind)
      (reported : event ∈ (s.device.handle command).2.1.events)
      (plain : event.isReserved = false) : MayBeTold s inbound event
  | served {event : Event} (own : s.registry.MayTell event) : MayBeTold s inbound event
  | ended {event : Event} (added : s.registry.services ≠ []) {success : Bool}
      (ended : event ∈ s.device.ending success) : MayBeTold s inbound event

/-- What may become of the device service. -/
inductive DeviceLeft (s : Session L S R) (inbound : Inbound) : DeviceService → Prop
  | same : DeviceLeft s inbound s.device
  | reported {bytes : Bytes} {command : Command} (came : inbound = .command bytes)
      (read : Command.ofBytes bytes = .ok command) (kind : command.kind = Command.systemKind) :
      DeviceLeft s inbound (s.device.handle command).1
  | disconnected : DeviceLeft s inbound s.device.disconnect

omit [Service S] in
theorem device_post (s : Session L S R) (out : Outbox) : (s.post out).device = s.device :=
  post_keep (P := fun t => t.device = s.device) out rfl (fun _ _ h => h)
    fun t task command h => (device_send t task command).trans h

omit [CipherSuite] [Link L] [Service S] [Radio R] in
/-- Where nothing is installed, nothing changes when an installation is said to be over. -/
theorem device_over (idle : s.device.install = .idle) :
    { s.device with install := .idle } = s.device := by
  rw [← idle]

omit [Service S] in
theorem device_startUpload (idle : s.device.install = .idle) (request : UploadRequest) :
    (s.startUpload request).device = s.device := by
  have hstarted := uploadStarted s request
  generalize s.startUpload request = t at hstarted ⊢
  cases hstarted with
  | busy =>
      cases request.listener
      exact device_over idle
  | unsent =>
      have hsent := device_send (s.awaiting request) "upload request"
        (uploadRequest request.kind request.bytes)
      exact (device_over (by rw [hsent]; exact idle)).trans hsent
  | sent => exact device_send _ _ _

omit [Service S] in
theorem device_flush (idle : s.device.install = .idle) (out : Outbox) :
    (s.flush out).device = s.device := by
  have hposted := s.device_post out
  rw [flush]
  split
  · exact (device_startUpload (by rw [hposted]; exact idle) _).trans hposted
  · exact hposted

omit [Service S] in
theorem Uploaded.device {ack : Option Bytes} (uploaded : Uploaded s ack t)
    (idle : s.device.install = .idle) : t.device = s.device := by
  cases uploaded with
  | ignored => rfl
  | stopped => exact device_over idle
  | first => rfl
  | next => rfl
  | completed => exact device_over idle

omit [Service S] in
theorem effects_flush (s : Session L S R) (out : Outbox) : s.effects <:+ (s.flush out).effects := by
  obtain ⟨-, -, heffects⟩ := told_post s out
  rw [flush]
  split
  · exact heffects.trans (effects_startUpload _ _)
  · exact heffects

omit [Service S] in
/-- Of an outbox its events are told, and its upload failing if it cannot be started. -/
theorem mem_told_flush (s : Session L S R) (out : Outbox) {event : Event}
    (h : event ∈ told s (s.flush out)) :
    event ∈ out.events ∨ ∃ request, out.upload = some request ∧ event ∈ s.device.ending false := by
  obtain ⟨htold, -, heffects⟩ := told_post s out
  rw [flush] at h
  split at h
  · rename_i request hasked
    rw [told_trans heffects (effects_startUpload _ _), htold] at h
    refine (List.mem_append.1 h).imp_right fun hended => ⟨request, hasked, ?_⟩
    rw [← device_post s out]
    rcases told_startUpload (s.post out) request with ⟨hnone, -⟩ | ⟨hending, -⟩
    · rw [hnone] at hended
      cases hended
    · rwa [hending] at hended
  · rw [htold] at h
    exact .inl h

/-- Events are told of the handshake, of activity data, of what the watch says of itself, and by
services that were added and of uploads they asked for. -/
theorem Admitted.told {host : HostView} {inbound : Inbound} (h : Admitted s host inbound t)
    (routed : s.registry.Routed) (nothing : s.registry.services = [] → s.upload = {}) :
    ∀ event ∈ told s t, MayBeTold s inbound event := by
  intro event hmem
  cases h with
  | dropped =>
      rw [told_of_effects rfl] at hmem
      cases hmem
  | activity bytes =>
      rw [told_tell] at hmem
      obtain rfl := List.mem_singleton.1 hmem
      exact .activity rfl
  | @reported _ command read kind plain =>
      have htold : Session.told s (post { s with device := (s.device.handle command).1 }
          (s.device.handle command).2.1) = (s.device.handle command).2.1.events :=
        (told_post { s with device := (s.device.handle command).1 } _).1
      rw [htold] at hmem
      exact .reported rfl read kind hmem (plain.events event hmem)
  | @served _ command index read route =>
      have hadded : s.registry.services ≠ [] := fun hnone =>
        routed.route_ne_registered hnone _ _ route
      rcases mem_told_flush { s with registry := (s.registry.onCommand index host command).1 }
        _ hmem with hserved | ⟨-, -, hended⟩
      · exact .served (s.registry.mayTell_onCommand host index command event hserved)
      · exact .ended hadded hended
  | uploaded _ running uploaded =>
      have hadded : s.registry.services ≠ [] := fun hnone => by
        rw [nothing hnone] at running
        cases running
      rcases uploaded.told with htold | ⟨success, htold⟩
      · rw [htold] at hmem
        cases hmem
      · rw [htold] at hmem
        exact .ended hadded hmem
  | @answered _ _ reply handshake =>
      have htold : Session.told s (send { s with handshake := handshake } "auth step" reply).1 =
          [] := told_send { s with handshake := handshake } "auth step" reply
      rw [htold] at hmem
      cases hmem
  | @accepted _ _ handshake =>
      -- The state is told first, then what the services have to tell.
      have hopened : s.effects <:+ (s.opened handshake).effects :=
        (List.suffix_cons _ _).trans (List.suffix_cons _ _)
      have hflushed := effects_flush
        { s.opened handshake with registry := (s.registry.onAuthenticated host).1 }
        (DeviceService.greeting ++ (s.registry.onAuthenticated host).2)
      have htold : Session.told s (onAuthenticated { s with handshake := handshake } host) =
          [.connectionState .initialized] ++ Session.told (s.opened handshake)
            (flush { s.opened handshake with registry := (s.registry.onAuthenticated host).1 }
              (DeviceService.greeting ++ (s.registry.onAuthenticated host).2)) :=
        (told_trans hopened hflushed).trans (congrArg (· ++ _) (s.told_opened handshake))
      rw [htold] at hmem
      rcases List.mem_append.1 hmem with hstate | hserved
      · obtain rfl := List.mem_singleton.1 hstate
        exact .state _
      · rcases mem_told_flush
          { s.opened handshake with registry := (s.registry.onAuthenticated host).1 } _ hserved with
          hserved | ⟨request, hasked, hended⟩
        · exact .served (s.registry.mayTell_onAuthenticated host event hserved)
        · have hasks : s.registry.MayAsk request :=
            ((Registry.answersFor_of_plain DeviceService.plain_greeting).append
              (s.registry.answersFor_onAuthenticated host)).upload request hasked
          exact .ended hasks.1 hended
  | refused =>
      rw [told_refused] at hmem
      rcases List.mem_cons.1 hmem with rfl | hmem
      · exact .failed
      · obtain rfl := List.mem_singleton.1 hmem
        exact .state _

theorem Admitted.device {host : HostView} {inbound : Inbound} (h : Admitted s host inbound t)
    (idle : s.device.install = .idle) : DeviceLeft s inbound t.device := by
  have hsame {t : Session L S R} (device : t.device = s.device) :
      DeviceLeft s inbound t.device := by
    rw [device]
    exact .same
  cases h with
  | dropped => exact .same
  | activity => exact .same
  | reported read kind =>
      rw [device_post]
      exact .reported rfl read kind
  | @served _ command index =>
      exact hsame (device_flush
        (s := { s with registry := (s.registry.onCommand index host command).1 }) idle _)
  | uploaded _ _ uploaded => exact hsame (uploaded.device idle)
  | answered => exact hsame (device_send _ _ _)
  | @accepted _ _ handshake =>
      exact hsame (device_flush
        (s := { s.opened handshake with registry := (s.registry.onAuthenticated host).1 }) idle _)
  | refused => exact .disconnected

/-! ## All that comes of it -/

/-- What comes of a payload to a session that is not open. Whatever it is, nothing is installed
before or after; and unless services of the host ask for uploads or tell of being busy, nothing is
uploaded and the session is not busy. -/
structure Confined (s : Session L S R) (host : HostView) (inbound : Inbound) : Prop where
  admitted : Admitted s host inbound (s.handleInbound host inbound)
  told : ∀ event ∈ told s (s.handleInbound host inbound), MayBeTold s inbound event
  device : DeviceLeft s inbound (s.handleInbound host inbound).device
  install : s.device.install = .idle ∧ (s.handleInbound host inbound).device.install = .idle
  unoccupied : s.Hosts Outbox.Discreet →
    (s.upload = {} ∧ s.busy = none) ∧
      (s.handleInbound host inbound).upload = {} ∧ (s.handleInbound host inbound).busy = none

theorem confined (heeded : s.Heeded) (routed : s.registry.Routed)
    (idle : s.device.install = .idle) (closed : s.state ≠ .initialized)
    (occupied : s.Hosts Outbox.Discreet → s.Occupied) (host : HostView) (inbound : Inbound) :
    Confined s host inbound := by
  have hacts := acts_handleInbound s host inbound
  have hadmitted := s.admitted heeded routed idle host inbound
  have hidle : (s.handleInbound host inbound).device.install = .idle := hacts.idle heeded idle
  refine ⟨hadmitted, hadmitted.told routed fun hnone => ?_, hadmitted.device idle, ⟨idle, hidle⟩,
    ?_⟩
  · exact ((occupied (hosts_of_builtIn hnone)).of_closed closed).2.1
  · intro hosts
    refine ⟨((occupied hosts).of_closed closed).2, ?_⟩
    cases (hacts.keep occupied_act ⟨hosts, occupied hosts⟩).2 with
    | free _ nothing unbusy => exact ⟨nothing, unbusy⟩
    | asking requested => cases hidle.symm.trans requested
    | uploading agreed => cases hidle.symm.trans agreed

theorem confined_acts [Settling L] {link : L} {radio : R} {config : LinkConfig}
    {capabilities : Capabilities} {start : Session L S R}
    (hstart : ofConfig link radio config capabilities = .ok start)
    (staged : start.Staged) {calls : List (HostCall S R)}
    (acts : Acts (start.run calls).clearEffects t) (closed : t.state ≠ .initialized)
    (host : HostView) (inbound : Inbound) : Confined t host inbound := by
  have hreachable : start.Reachable := .ofConfig hstart
  have hheeded : (start.run calls).clearEffects.Heeded := (hreachable.run calls).heeded
  have hstaged : (start.run calls).clearEffects.Staged := staged.run calls
  have htied : (start.run calls).clearEffects.Tied :=
    ⟨((tied_ofConfig hstart).run hreachable staged calls).install,
      ((tied_ofConfig hstart).run hreachable staged calls).upload⟩
  -- The install state is what is tied to the connection; the rest asks for discreet services only.
  obtain ⟨hnow, -, htiedNow⟩ := acts.keep tied_act ⟨hheeded, hstaged, htied⟩
  have hrouted : t.registry.Routed := acts.moves.alike.routed (hreachable.run calls).routed
  refine confined hnow hrouted (htiedNow.install closed) closed (fun hosts => ?_) host inbound
  have hbefore : (start.run calls).clearEffects.Hosts Outbox.Discreet := fun hadded =>
    hosts (mt acts.moves.alike.services_eq_nil_iff.1 hadded)
  have hoccupied : (start.run calls).clearEffects.Occupied :=
    (occupied_of_hosts hstart calls hbefore).of_eq rfl rfl rfl id
  exact (acts.keep occupied_act ⟨hbefore, hoccupied⟩).2

end

/-! ## Over either link -/

section

variable {S R : Type} [CipherSuite] [Service S] [Radio R]

/-- While the watch has not accepted the phone, and after the connection was lost, what comes of a
payload is confined, over a stream and over characteristics, wherever in a read it stands. -/
theorem confined_run {radio : R} {config : LinkConfig} {capabilities : Capabilities} :
    (∀ (link : StreamLink) (start : Session StreamLink S R),
      ofConfig link radio config capabilities = .ok start → ∀ calls t,
        Acts (start.run calls).clearEffects t → t.state ≠ .initialized →
          ∀ host inbound, Confined t host inbound) ∧
    ∀ (link : GattLink) (start : Session GattLink S R), link.bound = none →
      ofConfig link radio config capabilities = .ok start → ∀ calls t,
        Acts (start.run calls).clearEffects t → t.state ≠ .initialized →
          ∀ host inbound, Confined t host inbound := by
  constructor
  · intro link start hstart calls t acts closed host inbound
    have hstaged : start.Staged := staged_ofConfig hstart rfl
    exact confined_acts hstart hstaged acts closed host inbound
  · intro link start unbound hstart calls t acts closed host inbound
    have hstaged : start.Staged := staged_ofConfig hstart (Option.map_eq_none_iff.2 unbound)
    exact confined_acts hstart hstaged acts closed host inbound

end

/-! ## What follows a refusal -/

/-- The watch refuses the phone's nonce. -/
def refusal : Command := ⟨Command.authKind, Handshake.nonceSubtype, .status 1⟩

/-- The watch is half charged, and worn by someone who sleeps. -/
def earlyReport : Command :=
  ⟨Command.systemKind, DeviceService.basicStateSubtype,
    .system (.basicDeviceState ⟨false, some 50, true, true⟩)⟩

/-- The phone's nonce has gone out over a stream. -/
def saidHelloOver : List (HostCall DeviceService RadioQueue) := [.connect {} (.zero 16)]

/-- Both come in with one read. -/
def refusedThenReported : HostCall DeviceService RadioQueue :=
  .receive bareHost .stream
    ((authFrame refusal).octets ++ { authFrame earlyReport with dataType := .plain : Frame }.octets)

/-- Right after the refusal, and over characteristics before the watch has answered. -/
theorem confined_run_refused :
    ((streamStart.run saidHelloOver).clearEffects.handleInbound bareHost
      (.command refusal.toBytes)).state ≠ .initialized ∧
    Confined ((streamStart.run saidHelloOver).clearEffects.handleInbound bareHost
      (.command refusal.toBytes)) bareHost (.command earlyReport.toBytes) ∧
    (clearTextStart.run [.connect clearTextWatch (.zero 16)]).clearEffects.state ≠ .initialized ∧
    Confined (clearTextStart.run [.connect clearTextWatch (.zero 16)]).clearEffects bareHost
      (.command earlyReport.toBytes) := by
  have hstart : ofConfig {} {} bareConfig {} = .ok streamStart := rfl
  have hrefused : ((streamStart.run saidHelloOver).clearEffects.handleInbound bareHost
      (.command refusal.toBytes)).state ≠ .initialized := by decide +kernel
  have hgreeted : (clearTextStart.run [.connect clearTextWatch (.zero 16)]).clearEffects.state ≠
      .initialized := by decide +kernel
  exact ⟨hrefused, confined_run.1 {} streamStart hstart saidHelloOver _
      (acts_handleInbound _ bareHost _) hrefused bareHost _,
    hgreeted, confined_run.2 {} clearTextStart rfl ofConfig_clearTextStart
      [.connect clearTextWatch (.zero 16)] _ .refl hgreeted bareHost _⟩

/-- A watch that has just refused the phone says how it is, and is believed. -/
theorem reported_refused :
    ofConfig {} {} bareConfig {} = .ok streamStart ∧
    (streamStart.run saidHelloOver).state = .initializing ∧
    (streamStart.run saidHelloOver).device.battery = .unknown ∧
    (streamStart.run (saidHelloOver ++ [refusedThenReported])).state = .notConnected ∧
    (streamStart.run (saidHelloOver ++ [refusedThenReported])).events =
      [.authenticationFailed, .connectionState .notConnected, .battery (some 50) .normal] ∧
    (streamStart.run (saidHelloOver ++ [refusedThenReported])).device.battery = .normal ∧
    (streamStart.run (saidHelloOver ++ [refusedThenReported])).device.wearing = .worn ∧
    (streamStart.run (saidHelloOver ++ [refusedThenReported])).device.sleep = .asleep := by
  refine ⟨rfl, ?_, ?_, ?_, ?_, ?_, ?_, ?_⟩
  all_goals decide +kernel

end Session

end WatchLink
