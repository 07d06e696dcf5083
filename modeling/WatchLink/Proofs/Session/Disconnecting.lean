import WatchLink.Proofs.Link.Making
import WatchLink.Proofs.Session.Renewing
import WatchLink.Proofs.Session.Sheltering

/-!
# What disconnecting restores

Disconnecting forgets everything that belongs to a connection, and leaves what a session was made
with: the parameters of its link, who the phone is, and what the device service was told of the
watch and the host. So a session that was disconnected is as a new one just when nothing that went
on before has altered those, its `settings`. They are read off the three parts by what forgets the
rest, and every function keeps them.
-/

namespace WatchLink

/-! ## The handshake and the device service -/

namespace Handshake

@[simp] theorem reset_start (h : Handshake) (mode : HandshakeMode) (nonce : Octets 16) :
    (h.start mode nonce).1.reset = h.reset := by
  cases mode <;> rfl

theorem reset_handle [CipherSuite] (h : Handshake) (command : Command) :
    (h.handle command).1.reset = h.reset := by
  have hhandled := h.handled command
  generalize h.handle command = answer at hhandled ⊢
  cases hhandled <;> rfl

end Handshake

namespace DeviceService

@[simp] theorem disconnect_reportWearing (s : DeviceService) (wearing : WearingState) :
    (s.reportWearing wearing).1.disconnect = s.disconnect := rfl

@[simp] theorem disconnect_reportSleep (s : DeviceService) (sleep : SleepState) :
    (s.reportSleep sleep).1.disconnect = s.disconnect := rfl

@[simp] theorem disconnect_reportCharger (s : DeviceService) (raw : Option UInt32) :
    (s.reportCharger raw).disconnect = s.disconnect := by
  cases raw <;> rfl

theorem disconnect_handleDeviceState (s : DeviceService) (state : DeviceState) :
    (s.handleDeviceState state).1.disconnect = s.disconnect := by
  rw [handleDeviceState]
  cases state.wearing.bind WearingState.ofRaw? <;>
    cases state.sleep.bind SleepState.ofRaw? <;> simp

theorem disconnect_handleInstall (s : DeviceService) (body : Body) :
    (s.handleInstall body).1.disconnect = s.disconnect := by
  rw [handleInstall]
  repeat' split
  all_goals rfl

/-- Whatever the watch says, the device service keeps what it was made with. -/
theorem disconnect_handle (s : DeviceService) (command : Command) :
    (s.handle command).1.disconnect = s.disconnect := by
  have hhandled := s.handled command
  generalize s.handle command = answer at hhandled ⊢
  cases hhandled with
  | battery subtype body => exact s.disconnect_reportCharger _
  | install => exact s.disconnect_handleInstall _
  | deviceState subtype body => exact s.disconnect_handleDeviceState _
  | deviceInfo info => rfl
  | password setting => rfl
  | findPhone => rfl
  | menu items => rfl
  | vibration patterns => rfl
  | basicState subtype body => rfl
  | stateless => rfl
  | ignored result => rfl

end DeviceService

namespace Session

open Making

section

variable {L S R : Type} [CipherSuite] [Link L] [Making L] [Service S] [Radio R]

/-! ## Settings -/

/-- What a session was made with: its link's parameters, who the phone is, and the device service of
a watch nothing is known of. -/
def settings (s : Session L S R) : L × Handshake × DeviceService :=
  (made s.link, s.handshake.reset, s.device.disconnect)

omit [CipherSuite] [Service S] [Radio R] in
theorem settings_of_eq {s t : Session L S R} (link : made t.link = made s.link)
    (handshake : t.handshake.reset = s.handshake.reset)
    (device : t.device.disconnect = s.device.disconnect) : t.settings = s.settings := by
  rw [settings, settings, link, handshake, device]

omit [CipherSuite] [Radio R] in
theorem settings_resetConnection (s : Session L S R) : s.resetConnection.settings = s.settings :=
  settings_of_eq (made_teardown s.link) rfl rfl

/-! ## What goes out -/

omit [Service S] in
theorem settings_send (s : Session L S R) (task : String) (command : Command) :
    (s.send task command).1.settings = s.settings := by
  rcases send_cases s task command with h | ⟨link, op, written, h⟩
  · rw [h]
  · rw [h]
    exact settings_of_eq (made_writeCommand written) rfl rfl

omit [Service S] in
theorem settings_post (s : Session L S R) (out : Outbox) :
    (s.post out).settings = s.settings :=
  post_keep (P := fun t => t.settings = s.settings) out rfl (fun _ _ h => h)
    fun t task command h => (settings_send t task command).trans h

omit [Service S] in
theorem settings_finishUpload (s : Session L S R) (listener : UploadListener) (success : Bool) :
    (s.finishUpload listener success).settings = s.settings := by
  cases listener
  exact settings_post _ _

omit [Service S] in
theorem settings_startUpload (s : Session L S R) (request : UploadRequest) :
    (s.startUpload request).settings = s.settings := by
  have hsend := settings_send (s.awaiting request) "upload request"
    (uploadRequest request.kind request.bytes)
  have hstarted := uploadStarted s request
  generalize s.startUpload request = t at hstarted ⊢
  cases hstarted with
  | busy => exact settings_finishUpload s _ _
  | unsent => exact (settings_finishUpload _ _ _).trans hsend
  | sent => exact hsend

omit [Service S] in
theorem settings_flush (s : Session L S R) (out : Outbox) :
    (s.flush out).settings = s.settings := by
  rw [flush]
  split
  · exact (settings_startUpload _ _).trans (settings_post s out)
  · exact settings_post s out

omit [CipherSuite] in
theorem made_of_partsPut {link next : L} {cipher : Option PacketCipher} {parts : List Bytes}
    {writes : List RadioOp} (written : PartsPut cipher link parts next writes) :
    made next = made link :=
  written.keep (P := fun next => made next = made link)
    (fun _ _ _ _ hwritten h => (made_writeBulk hwritten).trans h) rfl

omit [Service S] in
theorem settings_applyUpload (s : Session L S R) (out : Upload.Output) :
    (s.applyUpload out).settings = s.settings := by
  obtain ⟨parts, link, writes, hwritten, -, hend⟩ :=
    writeParts_cases s.handshake.cipher? out.parts s.link
  have hkept (upload : Upload) :
      settings { s with link := link, upload := upload } = s.settings :=
    settings_of_eq (made_of_partsPut hwritten) rfl rfl
  rcases hend with ⟨-, hall⟩ | ⟨e, hstopped⟩
  · simp only [applyUpload, hall]
    generalize out.notices.foldl (News.read s.device) { listener := s.upload.listener } = news
    generalize (Transaction.add { name := "upload part" } writes).add news.ops = transaction
    have hasked : settings
        (if transaction.ops = [] then
          { s with link := link, upload := { s.upload with listener := news.listener } }
        else (submit
          { s with link := link, upload := { s.upload with listener := news.listener } }
          transaction).1) = s.settings := by
      split
      · exact hkept _
      · exact hkept { s.upload with listener := news.listener }
    split
    · exact (settings_finishUpload _ _ _).trans hasked
    · exact hasked
  · simp only [applyUpload, hstopped]
    split
    · exact (settings_finishUpload _ _ _).trans (hkept {})
    · exact hkept {}

/-! ## What comes in -/

theorem settings_handleAuth (s : Session L S R) (host : HostView) (command : Command) :
    (s.handleAuth host command).settings = s.settings := by
  have hreset := s.handshake.reset_handle command
  have hreplied := s.replied host command
  generalize s.handleAuth host command = t at hreplied ⊢
  cases hreplied with
  | ignored => rfl
  | refused handled =>
      rw [handled] at hreset
      exact (settings_resetConnection _).trans (settings_of_eq rfl hreset rfl)
  | answered handled =>
      rw [handled] at hreset
      exact (settings_send _ _ _).trans (settings_of_eq rfl hreset rfl)
  | accepted handled =>
      rw [handled] at hreset
      exact (settings_flush _ _).trans (settings_of_eq (made_resetCounters s.link) hreset rfl)

theorem settings_dispatch (s : Session L S R) (host : HostView) (command : Command) :
    (s.dispatch host command).settings = s.settings := by
  rw [dispatch]
  split
  · exact settings_handleAuth s host command
  · exact (settings_flush _ _).trans
      (settings_of_eq rfl rfl (s.device.disconnect_handle command))
  · split
    · exact settings_applyUpload _ _
    · rfl
  · exact settings_flush _ _
  · rfl

theorem settings_handleInbound (s : Session L S R) (host : HostView) (inbound : Inbound) :
    (s.handleInbound host inbound).settings = s.settings := by
  cases inbound with
  | command bytes =>
      rw [handleInbound]
      split
      · exact settings_dispatch s host _
      · rfl
  | activity => rfl
  | uploadAck => exact settings_applyUpload _ _

theorem heard_settings (settings : L × Handshake × DeviceService) :
    Heard fun s : Session L S R => s.settings = settings where
  inbox _ _ h := h
  taken s endpoint data h := by
    rw [← h]
    exact settings_of_eq (made_receive s.link endpoint data _) rfl rfl
  resync s h := by
    rw [← h]
    exact settings_of_eq (made_resync s.link) rfl rfl
  payload s host inbound h := (s.settings_handleInbound host inbound).trans h

/-! ## What a host asks for -/

omit [CipherSuite] [Radio R] in
theorem settings_ready (s : Session L S R) : s.ready.settings = s.settings := by
  rcases s.ready_cases with ⟨-, hready⟩ | hready
  · rw [hready]
    rfl
  · rw [hready]
    exact s.settings_resetConnection

omit [CipherSuite] in
theorem settings_connect (s : Session L S R) (discovery : Discovery) (nonce : Octets 16) :
    (s.connect discovery nonce).1.settings = s.settings := by
  have hready := s.settings_ready
  have hbind := made_bind s.ready.link discovery
  -- Whatever was written of the hello, the link is the one that was bound, with other counts.
  have hgreeted {link next : L} {mode : HandshakeMode} {op : RadioOp}
      (bound : made link = made s.ready.link)
      (written : (Link.writeCommand (Link.resetCounters link)
        (s.ready.handshake.start mode nonce).2 none).Puts next op) :
      (s.saidHello (Link.resetCounters link) next mode nonce op).1.settings = s.settings := by
    rw [← hready]
    exact settings_of_eq
      ((made_writeCommand written).trans ((made_resetCounters link).trans bound))
      (s.ready.handshake.reset_start mode nonce) rfl
  have hconnected := s.connected discovery nonce
  generalize (s.connect discovery nonce).1 = t at hconnected ⊢
  cases hconnected with
  | unbound bound =>
      rw [bound] at hbind
      rw [← hready]
      exact settings_of_eq hbind rfl rfl
  | @unwritten link mode _ bound =>
      rw [bound] at hbind
      rw [← hready]
      exact (settings_resetConnection _).trans (settings_of_eq
        ((made_resetCounters link).trans hbind) (s.ready.handshake.reset_start mode nonce) rfl)
  | refused bound written =>
      rw [bound] at hbind
      exact (settings_resetConnection _).trans (hgreeted hbind written)
  | greeted bound written =>
      rw [bound] at hbind
      exact hgreeted hbind written

omit [Service S] in
theorem settings_request (s : Session L S R) (out : Except LinkError Outbox) :
    (s.request out).1.settings = s.settings := by
  unfold request
  split
  · split
    · exact settings_flush s _
    · rfl
  · rfl

omit [Service S] in
theorem settings_installFirmware (s : Session L S R) (image : FirmwareImage) :
    (s.installFirmware image).1.settings = s.settings := by
  rcases installFirmware_cases s image with ⟨error, h⟩ | ⟨-, -, h⟩
  · rw [h]
  · rw [h]
    exact settings_send _ _ _

theorem settings_sendConfiguration (s : Session L S R) (host : HostView) (key : String) :
    (s.sendConfiguration host key).1.settings = s.settings := by
  rw [sendConfiguration]
  split
  · simp only
    split
    · exact settings_flush _ _
    · exact settings_flush _ _
  · rfl

theorem settings_perform (s : Session L S R) (call : HostCall S R) :
    (s.perform call).1.settings = s.settings := by
  cases call with
  | connect discovery nonce => exact s.settings_connect discovery nonce
  | disconnect => exact s.settings_resetConnection
  | mtuChanged mtu => exact settings_of_eq (made_setMtu s.link mtu) rfl rfl
  | register => rfl
  | deliver => rfl
  | processPending host => exact (heard_settings s.settings).reads.processAtMost host _ rfl
  | receive host endpoint data =>
      exact (heard_settings s.settings).reads.onReceive host endpoint data rfl
  | sendIn command =>
      rw [perform, sendIn]
      cases Link.writeCommand_allOrNothing s.link command s.handshake.cipher? with
      | puts next endpoint data written =>
          rw [written]
          exact settings_of_eq (made_writeCommand written) rfl rfl
      | fails e failed => rw [failed]
  | send task command => exact settings_send s task command
  | installFirmware image => exact settings_installFirmware s image
  | sendConfiguration host key => exact settings_sendConfiguration s host key
  | setCurrentTime => exact settings_request s _
  | findPhoneStop => exact settings_request s _
  | findWatch => exact settings_request s _
  | setVibration => exact settings_request s _
  | radio => rfl
  | inbox => rfl

theorem settings_run (s : Session L S R) (calls : List (HostCall S R)) :
    (s.run calls).settings = s.settings :=
  run_keep (P := fun t => t.settings = s.settings) calls rfl fun t h call _ =>
    (settings_perform t.clearEffects call).trans h

end

/-! ## As new -/

section

variable {L S R : Type}

/-- The same session with no services added and nothing on record. -/
def stripped (s : Session L S R) : Session L S R := { s with registry := {}, effects := [] }

/-- The settings decide whether there is a session; the link and the radio are taken as they are. -/
theorem ofConfig_with {link other : L} {radio next : R} {config : LinkConfig}
    {capabilities : Capabilities} {s : Session L S R}
    (hs : ofConfig link radio config capabilities = .ok s) :
    ofConfig other next config capabilities = .ok { s with link := other, radio := next } := by
  rw [ofConfig] at hs ⊢
  split at hs
  · cases hs
    rfl
  · cases hs
  · cases hs

variable [Link L] [Service S]

/-- One session is another that was disconnected: nothing was asked of the radio, the host was told
that there is no connection, and every service was. Once more, and it is told again; nothing else
changes. -/
structure Disconnected (s t : Session L S R) : Prop where
  radio : t.radio = s.radio
  effects : t.effects = .told (.connectionState .notConnected) :: s.effects
  services : t.registry = s.registry.onDisconnect
  again : t.disconnect =
    { t with
      registry := t.registry.onDisconnect
      effects := .told (.connectionState .notConnected) :: t.effects }

theorem disconnected (s : Session L S R)
    (torn : Link.teardown (Link.teardown s.link) = Link.teardown s.link) :
    Disconnected s s.disconnect where
  radio := rfl
  effects := rfl
  services := rfl
  again := by
    have hagain : s.disconnect.disconnect =
        { s.disconnect with
          link := Link.teardown (Link.teardown s.link)
          registry := s.disconnect.registry.onDisconnect
          effects := .told (.connectionState .notConnected) :: s.disconnect.effects } := rfl
    rw [hagain, torn]
    rfl

/-- A session that was disconnected is a new one over the link that was torn down, but for what was
done and the services that were added. -/
theorem disconnect_as_new [CipherSuite] [Making L] [Radio R] {link : L} {radio : R}
    {config : LinkConfig} {capabilities : Capabilities} {start : Session L S R}
    (hstart : ofConfig link radio config capabilities = .ok start) (calls : List (HostCall S R)) :
    ofConfig (Link.teardown (start.run calls).link) (start.run calls).radio config capabilities =
      .ok (start.run calls).disconnect.stripped ∧
    made (start.run calls).link = made link := by
  have hsettings := settings_run start calls
  obtain ⟨secret, rfl⟩ := eq_of_ofConfig hstart
  obtain ⟨hlink, hkept⟩ := Prod.ext_iff.1 hsettings
  obtain ⟨hhandshake, hdevice⟩ := Prod.ext_iff.1 hkept
  have hhandshake : (run _ calls).handshake.reset = _ := hhandshake
  have hdevice : (run _ calls).device.disconnect = _ := hdevice
  refine ⟨(ofConfig_with hstart).trans (congrArg Except.ok ?_), hlink⟩
  rw [stripped, disconnect, resetConnection, hhandshake, hdevice]
  rfl

end

section

variable {S R : Type} [CipherSuite] [Service S] [Radio R]

/-- After every run, disconnecting leaves a session as one that is newly made with the same settings
over a link with the same parameters: over a stream but for the totals of what was discarded and
dropped, over characteristics with nothing excepted. What was done stays on record, and the services
that the host has added stay with it. -/
theorem disconnect_run {radio : R} {config : LinkConfig} {capabilities : Capabilities} :
    (∀ (link : StreamLink) (start : Session StreamLink S R),
      ofConfig link radio config capabilities = .ok start → ∀ calls,
        Disconnected (start.run calls) (start.run calls).disconnect ∧
        (start.run calls).disconnect.link =
          { chunkSize := link.chunkSize
            reassembler :=
              { discarded := (start.run calls).link.reassembler.discarded
                dropped := (start.run calls).link.reassembler.dropped } } ∧
        ofConfig ({ chunkSize := link.chunkSize } : StreamLink) (start.run calls).radio config
            capabilities =
          .ok { (start.run calls).disconnect.stripped with
            link := { chunkSize := link.chunkSize } }) ∧
    ∀ (link : GattLink) (start : Session GattLink S R),
      ofConfig link radio config capabilities = .ok start → ∀ calls,
        Disconnected (start.run calls) (start.run calls).disconnect ∧
        ofConfig ({ templates := link.templates, mtuRequest := link.mtuRequest } : GattLink)
            (start.run calls).radio config capabilities =
          .ok (start.run calls).disconnect.stripped := by
  constructor
  · intro link start hstart calls
    obtain ⟨hnew, hmade⟩ := disconnect_as_new hstart calls
    have hmade : (start.run calls).link.made = link.made := hmade
    refine ⟨disconnected _ rfl, ?_, ofConfig_with hnew⟩
    exact (StreamLink.teardown_eq _).trans (by rw [hmade]; rfl)
  · intro link start hstart calls
    obtain ⟨hnew, hmade⟩ := disconnect_as_new hstart calls
    have htorn : Link.teardown (start.run calls).link = link.made := hmade
    rw [htorn] at hnew
    exact ⟨disconnected _ rfl, hnew⟩

end

/-- The watch has agreed to an installation, and its upload is requested. -/
def installing : List (HostCall DeviceService RadioQueue) :=
  meeting ++ [.installFirmware smallImage, agreement]

/-- With half a frame there, and in the middle of an installation. -/
theorem disconnect_run_halfRead :
    (streamStart.run halfRead).link.reassembler.buffer ≠ [] ∧
    ofConfig ({} : StreamLink) (streamStart.run halfRead).radio bareConfig {} =
      .ok { (streamStart.run halfRead).disconnect.stripped with link := {} } ∧
    (clearTextStart.run installing).upload.job ≠ none ∧
    ofConfig ({} : GattLink) (clearTextStart.run installing).radio bareConfig {} =
      .ok (clearTextStart.run installing).disconnect.stripped := by
  have hstart : ofConfig {} {} bareConfig {} = .ok streamStart := rfl
  exact ⟨by decide +kernel, (disconnect_run.1 {} streamStart hstart halfRead).2.2,
    by decide +kernel, (disconnect_run.2 {} clearTextStart ofConfig_clearTextStart _).2⟩

end Session

end WatchLink
