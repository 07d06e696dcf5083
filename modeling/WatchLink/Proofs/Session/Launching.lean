import WatchLink.Proofs.Packing.ReadBack
import WatchLink.Proofs.Session.Disconnecting
import WatchLink.Proofs.Session.Installing
import WatchLink.Proofs.Session.Pairing

/-!
# How an installation over a stream gets under way

A phone that pairs with a watch over a stream, asks it to take an image, is answered that it will
and is told to go ahead has its first part out after that: none of the steps can fail while the
radio takes what it is asked, whatever the cipher. The steps are the watch's frames of
authentication data, so that all of them are heard alike.
-/

namespace WatchLink

theorem Varint.length_write_le (groups n : Nat) : (Varint.write groups n).length ≤ groups := by
  induction groups generalizing n with
  | zero => exact Nat.le_refl 0
  | succ groups ih =>
      rw [Varint.write]
      split
      · exact Nat.succ_le_succ (Nat.zero_le _)
      · exact Nat.succ_le_succ (ih _)

namespace Upload

theorem length_blob (kind : UInt8) (file : Bytes) :
    (blob kind file).length = file.length + 27 := by
  simp [blob, framed]
  omega

end Upload

namespace StreamLink

/-- An upload part as it is written. -/
def bulkOctets (serial : UInt8) (part : Bytes) : Bytes :=
  { bulkFrame part with serial := serial }.octets

theorem writeBulk_eq (link : StreamLink) (part : Bytes) (cipher : Option PacketCipher) :
    (link.writeBulk part cipher).Puts link.afterUnsealed
      (.write .stream (bulkOctets link.serial part)) :=
  writeFrame_of_unsealed link (bulkFrame part) cipher nofun

end StreamLink

namespace Session

open Upload

/-- The request of an upload is short, whatever the file. -/
theorem length_uploadRequest_le (kind : UInt8) (file : Bytes) :
    (uploadRequest kind file).toBytes.length ≤ 26 := by
  have hbytes (digest : Octets 16) (size : UInt32) : Command.toBytes ⟨Command.uploadKind,
      startSubtype, .upload (.request kind digest size)⟩ =
        [Command.uploadKind, startSubtype, 4, 0, kind] ++
          (digest.toList ++ Varint.write 5 size.toNat) := rfl
  have hsize := Varint.length_write_le 5 (UInt32.ofNat file.length).toNat
  rw [uploadRequest, hbytes, List.length_append, List.length_append, Vector.length_toList]
  exact Nat.add_le_add_left (Nat.add_le_add_left hsize 16) 5

variable {S : Type} {s : Session StreamLink S RadioQueue}

/-- Nothing is being installed, nobody but the device is served, and the radio takes what it is
asked. -/
structure Unengaged (s : Session StreamLink S RadioQueue) : Prop where
  online : s.radio.offline = false
  upload : s.upload = {}
  install : s.device.install = .idle
  routed : s.registry.Routed
  builtIn : s.registry.services = []

/-- A stream that has keys and whose radio takes what it is asked, with nothing half-read and the
library's kinds answered by the library. -/
structure Receptive (s : Session StreamLink S RadioQueue) : Prop where
  rest : s.AtRest
  keyed : ∃ keys, s.handshake.keys? = some keys
  online : s.radio.offline = false
  routed : s.registry.Routed

theorem submit_taken (online : s.radio.offline = false) (transaction : Transaction) :
    (s.submit transaction).2 = .ok () ∧ (s.submit transaction).1.radio.offline = false := by
  simp only [submit, Radio.submit, RadioQueue.submit, online]
  exact ⟨rfl, rfl⟩

theorem Receptive.clearEffects (h : s.Receptive) : s.clearEffects.Receptive :=
  ⟨h.rest.clearEffects, h.keyed, h.online, h.routed⟩

theorem Unengaged.clearEffects (h : s.Unengaged) : s.clearEffects.Unengaged :=
  ⟨h.online, h.upload, h.install, h.routed, h.builtIn⟩

section

variable [CipherSuite]

theorem online_send (online : s.radio.offline = false) (task : String) (command : Command) :
    (s.send task command).1.radio.offline = false := by
  rcases send_cases s task command with hsame | ⟨link, op, -, hsent⟩
  · rw [hsame]
    exact online
  · rw [hsent]
    exact (submit_taken (s := { s with link := link }) online _).2

theorem Unengaged.send (h : s.Unengaged) (task : String) (command : Command) :
    (s.send task command).1.Unengaged where
  online := online_send h.online task command
  upload := (upload_send s task command).trans h.upload
  install := (congrArg DeviceService.install (device_send s task command)).trans h.install
  routed := by
    rw [registry_send]
    exact h.routed
  builtIn := by
    rw [registry_send]
    exact h.builtIn

theorem Receptive.send (h : s.Receptive) (task : String) (command : Command) :
    (s.send task command).1.Receptive where
  rest := h.rest.kept (kept_send s task command)
  keyed := by
    rw [handshake_send]
    exact h.keyed
  online := online_send h.online task command
  routed := by
    rw [registry_send]
    exact h.routed

/-- What is sealed goes out. -/
theorem Receptive.send_ok (h : s.Receptive) (task : String) {command : Command}
    (sealed : StreamLink.dataTypeOf command = .encrypted)
    (short : command.toBytes.length < Cipher.Ccm.lengthLimit) :
    (s.send task command).2 = .ok () := by
  obtain ⟨keys, hkeys⟩ := h.keyed
  obtain ⟨text, -, hwritten⟩ := s.link.exists_writeCommand_of_sealed keys sealed short
  rw [← Handshake.cipher?_of_keys? hkeys] at hwritten
  rw [send_of_puts hwritten]
  exact (submit_taken (s := { s with link := s.link.afterSealed }) h.online ⟨task, [_]⟩).1

end

/-! ## Pairing -/

section

variable [Service S]

theorem Unengaged.connect (h : s.Unengaged) (discovery : Discovery) (nonce : Octets 16) :
    (s.connect discovery nonce).1.Unengaged := by
  have hgreeted : (s.greeted nonce).Unengaged := by
    have halike := s.registry.alike_onDisconnect
    unfold greeted
    split
    · exact ⟨h.online, h.upload, h.install, h.routed, h.builtIn⟩
    · exact ⟨h.online, rfl, rfl, halike.routed h.routed,
        halike.services_eq_nil_iff.2 h.builtIn⟩
  obtain ⟨htaken, honline⟩ := submit_taken hgreeted.online (greeting nonce)
  rw [connect_stream]
  generalize hsubmit : (s.greeted nonce).submit (greeting nonce) = submitted at htaken honline
  obtain ⟨t, answer⟩ := submitted
  obtain rfl : t = ((s.greeted nonce).submit (greeting nonce)).1 := by rw [hsubmit]
  obtain rfl : answer = .ok () := htaken
  exact ⟨honline, hgreeted.upload, hgreeted.install, hgreeted.routed, hgreeted.builtIn⟩

variable [CipherSuite]

/-- A command in a frame of authentication data. -/
theorem AtRest.onReceive_authFrame (h : s.AtRest) (host : HostView) {command : Command}
    (short : command.toBytes.length ≤ Frame.maxPayload) :
    s.onReceive host .stream (authFrame command).octets = s.dispatch host command := by
  have hsize : (authFrame command).payload.length ≤ Frame.maxPayload := short
  rw [onReceive_octets_eq s host _ h hsize, hear_authFrame_eq]
  exact Nat.lt_of_le_of_lt short (by decide)

/-- With the watch's acceptance the session is open, and it still installs nothing. -/
theorem Unengaged.onAuthenticated (h : s.Unengaged) (host : HostView) (handshake : Handshake) :
    let t := Session.onAuthenticated { s with handshake := handshake } host
    t.Unengaged ∧ t.state = .initialized := by
  have halike := s.registry.alike_onAuthenticated host
  have hdiscreet : (DeviceService.greeting ++ (s.registry.onAuthenticated host).2).Discreet :=
    Registry.AnswersFor.discreet
      ((Registry.answersFor_of_plain DeviceService.plain_greeting).append
        (s.registry.answersFor_onAuthenticated host)) (fun hadded => absurd h.builtIn hadded)
  let opened : Session StreamLink S RadioQueue :=
    { s.opened handshake with registry := (s.registry.onAuthenticated host).1 }
  have hopened : opened.Unengaged :=
    ⟨(submit_taken (s := { s with handshake := handshake, link := s.link.resetCounters })
      h.online _).2, h.upload, h.install, halike.routed h.routed,
      halike.services_eq_nil_iff.2 h.builtIn⟩
  have hflushed : Session.onAuthenticated { s with handshake := handshake } host =
      opened.post (DeviceService.greeting ++ (s.registry.onAuthenticated host).2) :=
    opened.flush_of_discreet hdiscreet
  rw [hflushed]
  refine post_keep (P := fun t => t.Unengaged ∧ t.state = .initialized) _ ⟨hopened, rfl⟩ ?_ ?_
  · rintro t event ⟨hkept, hstate⟩
    exact ⟨⟨hkept.online, hkept.upload, hkept.install, hkept.routed, hkept.builtIn⟩, hstate⟩
  · rintro t task command ⟨hkept, hstate⟩
    exact ⟨hkept.send task command, (state_send t task command).trans hstate⟩

/-- Answering an honest nonce installs nothing. -/
theorem Unengaged.onReceive_honestNonce (h : s.Unengaged) (rest : s.AtRest) (host : HostView)
    {phoneNonce : Octets 16} (awaited : s.handshake.state = .awaitingWatchNonce phoneNonce)
    (info : (PhoneInfo.packing.write s.handshake.phoneInfo).length < Cipher.Ccm.lengthLimit)
    (watchNonce : Octets 16) :
    (s.onReceive host .stream (authFrame
      (Handshake.honestNonce s.handshake.secret phoneNonce watchNonce)).octets).Unengaged := by
  obtain ⟨answer, hnonce⟩ := Handshake.handle_honestNonce awaited info watchNonce
  have hlen : (Handshake.honestNonce s.handshake.secret phoneNonce watchNonce).toBytes.length =
      52 := by
    rw [Handshake.toBytes_honestNonce]
    simp
  have hasking : Unengaged { s with handshake :=
      { s.handshake with
        state := .awaitingAuthResult
        pending? := some (.derive s.handshake.secret phoneNonce watchNonce) } } :=
    ⟨h.online, h.upload, h.install, h.routed, h.builtIn⟩
  rw [onReceive_octets_eq s host _ rest (by rw [authFrame, hlen]; decide),
    hear_authFrame h.routed host _ rfl (by rw [hlen]; decide), handleAuth, hnonce]
  exact hasking.send _ _

/-- The calls of a connection up to the acceptance leave the session open with keys. -/
theorem receptive_run_pairing (h : s.Unengaged) (rest : s.AtRest)
    (info : (PhoneInfo.packing.write s.handshake.phoneInfo).length < Cipher.Ccm.lengthLimit)
    (host : HostView) (phoneNonce watchNonce : Octets 16) :
    let t := s.run (pairing host s.handshake.secret phoneNonce watchNonce)
    t.Unengaged ∧ t.Receptive ∧ t.state = .initialized := by
  have htaken : (Radio.submit s.radio (greeting phoneNonce)).2 = .ok () :=
    (submit_taken h.online (greeting phoneNonce)).1
  obtain ⟨hanswered, hhandshake⟩ :=
    run_approach host phoneNonce watchNonce rest h.routed htaken info
  have hkeys := keys?_run_pairing host phoneNonce watchNonce rest h.routed htaken info
  have hidle : (s.run (approach host s.handshake.secret phoneNonce watchNonce)).Unengaged := by
    have hconnect := handshake_connect s.clearEffects {} phoneNonce htaken
    have hrest := (rest.clearEffects.connect {} phoneNonce).clearEffects
    have hidle := (h.clearEffects.connect {} phoneNonce).clearEffects
    simp only [approach, run_cons, run_nil, perform]
    generalize (s.clearEffects.connect {} phoneNonce).1 = t at hconnect hrest hidle ⊢
    have hhandshake : t.clearEffects.handshake = (s.handshake.startEncrypted phoneNonce).1 :=
      hconnect
    have hdone := hidle.onReceive_honestNonce hrest host (by rw [hhandshake]; rfl)
      (by rw [hhandshake]; exact info) watchNonce
    rwa [hhandshake] at hdone
  simp only [pairing, run_append, run_cons, run_nil, perform] at hkeys ⊢
  generalize s.run (approach host s.handshake.secret phoneNonce watchNonce) = t
    at hanswered hhandshake hkeys hidle ⊢
  have hpending : t.clearEffects.handshake = t.handshake := rfl
  rw [hhandshake] at hpending
  have haccepted := Handshake.handle_acceptance (h := t.clearEffects.handshake)
    (by rw [hpending]) (by rw [hpending])
  have hopened := hidle.clearEffects.onAuthenticated host
    (t.clearEffects.handshake.handle Handshake.acceptance).1
  have hrest : (t.clearEffects.onReceive host .stream
      (authFrame Handshake.acceptance).octets).AtRest :=
    hanswered.clearEffects.onReceive host (by decide)
  have hdone : t.clearEffects.onReceive host .stream (authFrame Handshake.acceptance).octets =
      Session.onAuthenticated
        { t.clearEffects with
          handshake := (t.clearEffects.handshake.handle Handshake.acceptance).1 } host := by
    rw [onReceive_octets_eq _ host _ hanswered.clearEffects (by decide),
      hear_authFrame hidle.clearEffects.routed host _ rfl (by decide), handleAuth, haccepted]
  rw [hdone] at hkeys hrest ⊢
  exact ⟨hopened.1, ⟨hrest, ⟨_, hkeys⟩, hopened.1.online, hopened.1.routed⟩, hopened.2⟩

/-! ## The watch agrees -/

/-- The watch will take an image. -/
def consent : Command :=
  ⟨Command.systemKind, DeviceService.installSubtype, .system (.installResponse 0)⟩

/-- The watch asks for the first part. -/
def goAhead (chunk : UInt32) : Command :=
  ⟨Command.uploadKind, startSubtype, .upload (.ack 0 chunk)⟩

theorem dispatch_consent (host : HostView) (routed : s.registry.Routed) {image : FirmwareImage}
    (requested : s.device.install = .requested image) :
    s.dispatch host consent = s.agreed image := by
  have hroute : s.registry.route Command.systemKind = some .system := (routed.system _).2 rfl
  have hinstall : s.device.handleInstall consent.body =
      ({ s.device with install := .uploading image },
        { events := [.busy (some s.device.messages.updatingFirmware)]
          upload := some ⟨firmwareKind, image.bytes, .deviceService⟩ }) := by
    rw [consent, DeviceService.handleInstall, requested]
    rfl
  have hanswer : s.device.handle consent =
      ({ s.device with install := .uploading image },
        { events := [.busy (some s.device.messages.updatingFirmware)]
          upload := some ⟨firmwareKind, image.bytes, .deviceService⟩ }, .ok ()) := by
    change ((s.device.handleInstall consent.body).1, _, _) = _
    rw [hinstall]
  rw [dispatch]
  simp only [consent] at hanswer ⊢
  simp only [hroute, Service.onCommand, hanswer]
  rfl

omit [Service S] [CipherSuite] in
theorem length_goAhead_le (chunk : UInt32) :
    (goAhead chunk).toBytes.length ≤ Frame.maxPayload := by
  have hbytes : (goAhead chunk).toBytes =
      [Command.uploadKind, startSubtype, 4, 1, 0] ++ Varint.write 5 chunk.toNat := rfl
  have hsize := Varint.length_write_le 5 chunk.toNat
  rw [hbytes, List.length_append]
  exact Nat.le_trans (Nat.add_le_add_left hsize 5) (by decide)

omit [Service S] in
theorem Receptive.agreed (h : s.Receptive) (image : FirmwareImage) (idle : s.upload = {}) :
    (s.agreed image).Receptive ∧
    (s.agreed image).upload = installUpload image .awaitingAck := by
  let request : UploadRequest := ⟨firmwareKind, image.bytes, .deviceService⟩
  have hasking : ((s.updating image).awaiting request).Receptive :=
    ⟨h.rest.of_eq rfl rfl, h.keyed, h.online, h.routed⟩
  have hstarted : UploadStarted (s.updating image) request (s.agreed image) := uploadStarted _ _
  have hsent : (((s.updating image).awaiting request).send "upload request"
      (uploadRequest request.kind request.bytes)).2 = .ok () :=
    hasking.send_ok _ rfl (Nat.lt_of_le_of_lt (length_uploadRequest_le _ _) (by decide))
  generalize s.agreed image = t at hstarted ⊢
  cases hstarted with
  | busy running =>
      have hnone : s.upload.job = none := by rw [idle]
      cases hnone.symm.trans running
  | unsent _ outcome => cases hsent.symm.trans outcome
  | sent => exact ⟨hasking.send _ _, upload_send _ _ _⟩

/-! ## The first part -/

omit [Service S] in
theorem applyUpload_of_written (listener : s.upload.listener = some .deviceService) {part : Bytes}
    {link : StreamLink} {op : RadioOp}
    (written : (Link.writeBulk s.link part s.handshake.cipher?).Puts link op) :
    s.applyUpload ⟨[part], []⟩ = s.wrote s.upload link op [] := by
  have hupload : ({ s.upload with listener := some .deviceService } : Upload) = s.upload := by
    rw [← listener]
  have hall : PartsPut s.handshake.cipher? s.link [part] link [op] := .cons written (.nil link)
  simp only [applyUpload, writeParts, hall.each_eq, listener, List.foldl_nil, hupload]
  rfl

/-- With the first acknowledgement the first part goes out. -/
theorem dispatch_goAhead (host : HostView) (routed : s.registry.Routed) {image : FirmwareImage}
    {chunk : UInt32} (running : s.upload = installUpload image .awaitingAck) {size : Nat}
    (sized : partSize chunk s.link.chunkSize = size) (room : size ≠ 0)
    (count : partCount (blob firmwareKind image.bytes).length size ≤ 65535) :
    let total := UInt16.ofNat (partCount (blob firmwareKind image.bytes).length size)
    (s.dispatch host (goAhead chunk)).asked = s.asked ++ [.write .stream
      (StreamLink.bulkOctets s.link.serial (part (blob firmwareKind image.bytes) size total 1))] ∧
    (s.dispatch host (goAhead chunk)).upload = installUpload image (.sending size total 1) := by
  intro total
  let first := part (blob firmwareKind image.bytes) size total 1
  have hroute : s.registry.route Command.uploadKind = some .upload := (routed.upload _).2 rfl
  have hmax : Link.maxBulk s.link = s.link.chunkSize := rfl
  have hhandled : s.upload.handleCommand (goAhead chunk) (Link.maxBulk s.link) =
      .ok (installUpload image (.sending size total 1), { parts := [first] }) := by
    rw [handleCommand, goAhead, if_pos rfl, hmax, running]
    simp only [installUpload, if_true, sized]
    rw [startSending, if_neg (not_or.2 ⟨room, Nat.not_lt.2 count⟩)]
  have happlied := applyUpload_of_written
    (s := { s with upload := installUpload image (.sending size total 1) }) rfl
    (StreamLink.writeBulk_eq s.link first s.handshake.cipher?)
  simp only [dispatch, goAhead, hroute] at hhandled ⊢
  rw [hhandled]
  simp only [happlied]
  constructor
  · rw [wrote, asked_submit]
    rfl
  · rw [wrote, submit]

/-- The calls of a connection up to the watch's consent to an image. -/
def launch (host : HostView) (secret phoneNonce watchNonce : Octets 16) (image : FirmwareImage) :
    List (HostCall S RadioQueue) :=
  pairing host secret phoneNonce watchNonce ++
    [.installFirmware image, .receive host .stream (authFrame consent).octets]

omit [Service S] in
theorem installFirmware_eq (opened : s.state = .initialized) (idle : s.device.install = .idle)
    {image : FirmwareImage} (firmware : image.isFirmware = true) :
    s.installFirmware image = (s.requested image, .ok ()) := by
  have hopened : s.isInitialized = true := decide_eq_true opened
  have hrequest : s.device.requestInstall image =
      .ok ({ s.device with install := .requested image },
        .ofCommand s!"install firmware {image.version}"
          (DeviceService.message DeviceService.installSubtype
            (.installRequest image.version image.md5Hex))) := by
    rw [DeviceService.requestInstall, if_pos firmware, idle]
  simp only [installFirmware, hopened, if_true, hrequest]
  rfl

/-- When the watch goes ahead with an image that fits its parts, the first part goes out. -/
theorem run_launch (h : s.Unengaged) (rest : s.AtRest)
    (info : (PhoneInfo.packing.write s.handshake.phoneInfo).length < Cipher.Ccm.lengthLimit)
    (host : HostView) (phoneNonce watchNonce : Octets 16) {image : FirmwareImage}
    (firmware : image.isFirmware = true) {chunk : UInt32} {size : Nat}
    (sized : partSize chunk s.link.chunkSize = size) (room : size ≠ 0)
    (count : partCount (blob firmwareKind image.bytes).length size ≤ 65535) :
    let total := UInt16.ofNat (partCount (blob firmwareKind image.bytes).length size)
    let t := s.run (launch host s.handshake.secret phoneNonce watchNonce image ++
      [.receive host .stream (authFrame (goAhead chunk)).octets])
    t.upload = installUpload image (.sending size total 1) ∧
    ∃ serial, t.asked = [.write .stream
      (StreamLink.bulkOctets serial (part (blob firmwareKind image.bytes) size total 1))] := by
  obtain ⟨hidle, hpaired, hopened⟩ := receptive_run_pairing h rest info host phoneNonce watchNonce
  have hchunk := fun calls => congrArg (fun settings => settings.1.chunkSize) (settings_run s calls)
  specialize hchunk (launch host s.handshake.secret phoneNonce watchNonce image)
  simp only [launch, run_append, run_cons, run_nil, perform] at hchunk ⊢
  generalize s.run (pairing host s.handshake.secret phoneNonce watchNonce) = t
    at hidle hpaired hopened hchunk ⊢
  have hasking : Receptive { t.clearEffects with
      device := { t.device with install := .requested image } } :=
    ⟨hpaired.rest.of_eq rfl rfl, hpaired.keyed, hpaired.online, hpaired.routed⟩
  have hrequested : (t.clearEffects.requested image).clearEffects.Receptive :=
    (hasking.send _ _).clearEffects
  have hinstall : (t.clearEffects.requested image).device.install = .requested image :=
    congrArg DeviceService.install (device_send _ _ _)
  have hupload : (t.clearEffects.requested image).upload = {} :=
    (upload_send _ _ _).trans hidle.upload
  rw [installFirmware_eq (s := t.clearEffects) hopened hidle.install firmware] at hchunk ⊢
  rw [hrequested.rest.onReceive_authFrame host (by decide),
    dispatch_consent (s := (t.clearEffects.requested image).clearEffects) host hrequested.routed
      hinstall] at hchunk ⊢
  obtain ⟨hagreed, hawaiting⟩ := hrequested.agreed image hupload
  generalize (t.clearEffects.requested image).clearEffects.agreed image = u
    at hagreed hawaiting hchunk ⊢
  have hsized : partSize chunk u.clearEffects.link.chunkSize = size := by
    rw [show u.clearEffects.link.chunkSize = s.link.chunkSize from hchunk, sized]
  obtain ⟨hasked, hsending⟩ := dispatch_goAhead (s := u.clearEffects) host hagreed.routed
    hawaiting hsized room count
  rw [hagreed.clearEffects.rest.onReceive_authFrame host (length_goAhead_le chunk)]
  exact ⟨hsending, _, hasked⟩

end

end Session

end WatchLink
