import WatchLink.Proofs.Session.Telling

/-!
# Installation, upload and being busy agree

A running upload shows in four places: the upload has a job, it has a listener, the installation is
uploading, and the host has been told that the connection is busy. `Occupied` lists the three
combinations that occur between payloads, and every act keeps a session on one of them, as long as
the services of the host neither ask for uploads nor tell of being busy. `Turn` lists what a payload
can do to the upload, each time with all that is told of it: whatever ends an upload but the loss of
the connection tells how the installation ended and that the connection is not busy any more, once
each and in this order.
-/

namespace WatchLink

/-- An outbox that asks for no upload and tells nothing about being busy. -/
structure Outbox.Discreet (out : Outbox) : Prop where
  upload : out.upload = none
  unbusy : ∀ task, .busy task ∉ out.events

/-- Where services of the host are discreet, every outbox is. -/
theorem Registry.AnswersFor.discreet {S : Type} [Service S] {registry : Registry S} {out : Outbox}
    (h : registry.AnswersFor out)
    (hadded : registry.services ≠ [] → ∀ out, Service.Fills S out → out.Discreet) :
    out.Discreet where
  upload := by
    cases hupload : out.upload with
    | none => rfl
    | some request =>
        obtain ⟨hservices, more, hfills, hrequest⟩ := h.upload request hupload
        rw [(hadded hservices more hfills).upload] at hrequest
        cases hrequest
  unbusy task hmem := by
    obtain ⟨hservices, more, hfills, htold⟩ := h.events _ hmem rfl
    exact (hadded hservices more hfills).unbusy task htold

theorem Outbox.Plain.discreet {out : Outbox} (h : out.Plain) : out.Discreet where
  upload := h.upload
  unbusy task hmem := by cases h.events _ hmem

/-- Neither does anything come in in the call, nor does it start or end a connection. -/
def HostCall.isAside {S R : Type} : HostCall S R → Bool
  | .connect _ _ | .disconnect | .processPending _ | .receive _ _ _ => false
  | _ => true

namespace Session

section

variable {L S R : Type}

/-! ## What a session is occupied with -/

/-- A session is free, or it has asked the watch to take an image, or it uploads one. -/
inductive Occupied (s : Session L S R) : Prop
  | free (install : s.device.install = .idle) (upload : s.upload = {}) (busy : s.busy = none)
  | asking {image : FirmwareImage} (install : s.device.install = .requested image)
      (upload : s.upload = {}) (busy : s.busy = none) (opened : s.state = .initialized)
  | uploading {image : FirmwareImage} {job : UploadJob} {task : String}
      (install : s.device.install = .uploading image)
      (upload : s.upload = ⟨some job, some .deviceService⟩) (busy : s.busy = some task)
      (opened : s.state = .initialized)

variable {s t : Session L S R}

theorem Occupied.of_eq (h : s.Occupied) (install : t.device.install = s.device.install)
    (upload : t.upload = s.upload) (busy : t.busy = s.busy)
    (opened : s.state = .initialized → t.state = .initialized) : t.Occupied := by
  cases h with
  | free idle nothing unbusy =>
      exact .free (install.trans idle) (upload.trans nothing) (busy.trans unbusy)
  | asking requested nothing unbusy initialized =>
      exact .asking (install.trans requested) (upload.trans nothing) (busy.trans unbusy)
        (opened initialized)
  | uploading agreed running told initialized =>
      exact .uploading (install.trans agreed) (upload.trans running) (busy.trans told)
        (opened initialized)

theorem Occupied.of_requested (h : s.Occupied) {image : FirmwareImage}
    (requested : s.device.install = .requested image) :
    s.upload = {} ∧ s.state = .initialized := by
  cases h with
  | free idle => cases idle.symm.trans requested
  | asking _ nothing _ opened => exact ⟨nothing, opened⟩
  | uploading agreed => cases agreed.symm.trans requested

theorem Occupied.of_running (h : s.Occupied) {job : UploadJob} (running : s.upload.job = some job) :
    (∃ image, s.device.install = .uploading image) ∧
      s.upload = ⟨some job, some .deviceService⟩ ∧ (∃ task, s.busy = some task) ∧
      s.state = .initialized := by
  cases h with
  | free _ nothing =>
      rw [nothing] at running
      cases running
  | asking _ nothing =>
      rw [nothing] at running
      cases running
  | uploading agreed upload told opened =>
      rw [upload] at running
      cases running
      exact ⟨⟨_, agreed⟩, upload, ⟨_, told⟩, opened⟩

theorem Occupied.heeded (h : s.Occupied) : s.Heeded := by
  intro hjob
  obtain ⟨job, running⟩ := Option.ne_none_iff_exists'.1 hjob
  rw [(h.of_running running).2.1]

/-- Where no connection is authenticated nothing is going on. -/
theorem Occupied.of_closed (h : s.Occupied) (closed : s.state ≠ .initialized) :
    s.device.install = .idle ∧ s.upload = {} ∧ s.busy = none := by
  cases h with
  | free idle nothing unbusy => exact ⟨idle, nothing, unbusy⟩
  | asking _ _ _ opened => exact absurd opened closed
  | uploading _ _ _ opened => exact absurd opened closed

end

section

variable {L S R : Type} [CipherSuite] [Link L] [Radio R] {s t : Session L S R}

theorem occupied_stopped (s : Session L S R) (success : Bool) : (s.stopped success).Occupied :=
  .free rfl rfl rfl

theorem Uploaded.occupied {ack : Option Bytes} (uploaded : Uploaded s ack t) (h : s.Occupied) :
    t.Occupied := by
  have hsending {job : UploadJob} (running : s.upload.job = some job) (size : Nat)
      (total index : UInt16) (link : L) (op : RadioOp) (progress : List RadioOp) :
      (s.wrote (s.upload.sending job size total index) link op progress).Occupied := by
    obtain ⟨⟨image, hinstall⟩, hupload, ⟨task, hbusy⟩, hopened⟩ := h.of_running running
    have hnext : s.upload.sending job size total index =
        ⟨some { job with phase := .sending size total index }, some .deviceService⟩ := by
      rw [hupload]
      rfl
    exact .uploading hinstall hnext hbusy hopened
  cases uploaded with
  | ignored => exact h
  | stopped => exact occupied_stopped s false
  | first running => exact hsending running _ _ _ _ _ _
  | next running => exact hsending running _ _ _ _ _ _
  | completed => exact occupied_stopped _ true

theorem occupied_agreed (h : s.Occupied) {image : FirmwareImage}
    (requested : s.device.install = .requested image) : (s.agreed image).Occupied := by
  obtain ⟨hupload, hopened⟩ := h.of_requested requested
  have hstarted := uploadStarted (s.updating image)
    ⟨Upload.firmwareKind, image.bytes, .deviceService⟩
  rw [agreed]
  generalize (s.updating image).startUpload ⟨Upload.firmwareKind, image.bytes, .deviceService⟩ = t
    at hstarted ⊢
  cases hstarted with
  | busy => exact .free rfl hupload rfl
  | unsent => exact .free rfl rfl rfl
  | sent =>
      refine .uploading (congrArg DeviceService.install (device_send _ _ _)) (upload_send _ _ _)
        (busy_send _ _ _) ?_
      rw [state_send]
      exact hopened

variable [Service S]

theorem occupied_act (s t : Session L S R) (act : Act s t)
    (h : s.Hosts Outbox.Discreet ∧ s.Occupied) : t.Hosts Outbox.Discreet ∧ t.Occupied := by
  obtain ⟨hhosts, hoccupied⟩ := h
  have hheeded := hoccupied.heeded
  refine ⟨hhosts.act act, ?_⟩
  have hsend (s : Session L S R) (h : s.Occupied) (task : String) (command : Command) :
      (s.send task command).1.Occupied :=
    h.of_eq (congrArg DeviceService.install (device_send s task command))
      (upload_send s task command) (busy_send s task command)
      (fun opened => (state_send s task command).trans opened)
  cases act with
  | acknowledge ack => exact (uploaded_ack hheeded ack).occupied hoccupied
  | inbox => exact hoccupied.of_eq rfl rfl rfl id
  | receive => exact hoccupied.of_eq rfl rfl rfl id
  | resync => exact hoccupied.of_eq rfl rfl rfl id
  | deed deed =>
      cases deed with
      | tell event own =>
          refine hoccupied.of_eq rfl rfl ?_ id
          cases event with
          | busy task =>
              obtain ⟨hadded, out, hfills, hmem⟩ := own rfl
              exact absurd hmem ((hhosts hadded out hfills).unbusy task)
          | _ => rfl
      | device device install => exact hoccupied.of_eq install rfl rfl id
      | registry => exact hoccupied.of_eq rfl rfl rfl id
      | send task command => exact hsend s hoccupied task command
      | startUpload request own =>
          obtain ⟨hadded, out, hfills, hrequest⟩ := own
          rw [(hhosts hadded out hfills).upload] at hrequest
          cases hrequest
      | agree requested => exact occupied_agreed hoccupied requested
      | decline requested =>
          have hnothing := (hoccupied.of_requested requested).1
          cases hoccupied with
          | free _ _ unbusy => exact .free rfl hnothing unbusy
          | asking _ _ unbusy => exact .free rfl hnothing unbusy
          | uploading agreed => cases agreed.symm.trans requested
      | command handled => exact (uploaded_command hheeded handled).occupied hoccupied
      | @answer _ reply handshake =>
          have hkept : Occupied { s with handshake := handshake } := hoccupied.of_eq rfl rfl rfl id
          exact hsend _ hkept "auth step" reply
      | accept => exact hoccupied.of_eq rfl rfl rfl fun _ => rfl
      | refuse => exact .free rfl rfl rfl

omit [CipherSuite] in
theorem Occupied.connect (h : s.Occupied) (discovery : Discovery) (nonce : Octets 16) :
    (s.connect discovery nonce).1.Occupied := by
  have hready : s.ready.device.install = .idle ∧ s.ready.upload = {} ∧ s.ready.busy = none := by
    rcases s.ready_cases with ⟨hstate, hready⟩ | hready
    · rw [hready]
      exact h.of_closed (by rw [hstate]; nofun)
    · rw [hready]
      exact ⟨rfl, rfl, rfl⟩
  obtain ⟨hidle, hnothing, hunbusy⟩ := hready
  have hconnected := s.connected discovery nonce
  generalize (s.connect discovery nonce).1 = t at hconnected ⊢
  cases hconnected with
  | unbound => exact .free hidle hnothing hunbusy
  | unwritten => exact .free rfl rfl rfl
  | refused => exact .free rfl rfl rfl
  | greeted => exact .free hidle hnothing hunbusy

theorem Occupied.perform (h : s.Occupied) (hosts : s.Hosts Outbox.Discreet)
    (call : HostCall S R) : (s.perform call).1.Occupied := by
  have hacts {t : Session L S R} (acts : Acts s t) : t.Occupied :=
    (acts.keep occupied_act ⟨hosts, h⟩).2
  have hhappened := s.happened call
  generalize (s.perform call).1 = t at hhappened ⊢
  generalize s.moments call = moments at hhappened
  cases hhappened with
  | connect discovery nonce => exact h.connect discovery nonce
  | disconnect => exact .free rfl rfl rfl
  | mtuChanged => exact h.of_eq rfl rfl rfl id
  | radio => exact h.of_eq rfl rfl rfl id
  | sendIn => exact h.of_eq rfl rfl rfl id
  | register => exact h.of_eq rfl rfl rfl id
  | @install image opened idle =>
      rw [requested]
      cases h with
      | free _ nothing unbusy =>
          exact .asking (congrArg DeviceService.install (device_send _ _ _))
            ((upload_send _ _ _).trans nothing) ((busy_send _ _ _).trans unbusy)
            ((state_send _ _ _).trans opened)
      | asking requested => cases idle.symm.trans requested
      | uploading agreed => cases idle.symm.trans agreed
  | inbox => exact h.of_eq rfl rfl rfl id
  | deeds deeds => exact hacts deeds.acts
  | processPending host => exact hacts (acts_processAtMost host _ s)
  | receive host endpoint data => exact hacts (acts_onReceive s host endpoint data)

theorem Occupied.run (h : s.Occupied) (hosts : s.Hosts Outbox.Discreet)
    (calls : List (HostCall S R))
    (hadded : ∀ service, .register service ∈ calls →
      ∀ out, Service.Fills S out → out.Discreet) :
    (s.run calls).Hosts Outbox.Discreet ∧ (s.run calls).Occupied := by
  refine run_keep (P := fun t => t.Hosts Outbox.Discreet ∧ t.Occupied) calls ⟨hosts, h⟩ ?_
  rintro t ⟨hhosts, hoccupied⟩ call hmem
  have hclear : t.clearEffects.Occupied := hoccupied.of_eq rfl rfl rfl id
  have hquiet : t.clearEffects.Hosts Outbox.Discreet := hhosts
  refine ⟨hquiet.perform call ?_, hclear.perform hquiet call⟩
  rintro service rfl
  exact hadded service hmem

end

/-! ## What a payload does to the upload -/

section

variable {L S R : Type} [CipherSuite] [Link L] [Radio R]

omit [CipherSuite] [Link L] [Radio R] in
theorem effects_tells (s : Session L S R) (events : List Event) :
    (events.foldl tell s).effects = (events.map Effect.told).reverse ++ s.effects ∧
      (events.foldl tell s).upload = s.upload := by
  induction events generalizing s with
  | nil => exact ⟨rfl, rfl⟩
  | cons event events ih =>
      obtain ⟨heffects, hupload⟩ := ih (s.tell event)
      refine ⟨?_, hupload⟩
      rw [List.foldl_cons, heffects, List.map_cons, List.reverse_cons, List.append_assoc]
      rfl

/-- Of an outbox its events are told, whatever becomes of its commands. -/
theorem told_post (s : Session L S R) (out : Outbox) :
    told s (s.post out) = out.events ∧ (s.post out).upload = s.upload ∧
      s.effects <:+ (s.post out).effects := by
  obtain ⟨heffects, hupload⟩ := s.effects_tells out.events
  have htells : told s (out.events.foldl tell s) = out.events := by
    rw [told_of_eq _ heffects, List.reverse_reverse, List.filterMap_map]
    exact List.filterMap_some
  have hsuffix : s.effects <:+ (out.events.foldl tell s).effects := ⟨_, heffects.symm⟩
  refine List.foldlRecOn
    (motive := fun t : Session L S R =>
      told s t = out.events ∧ t.upload = s.upload ∧ s.effects <:+ t.effects)
    out.commands _ ⟨htells, hupload, hsuffix⟩ ?_
  rintro t ⟨htold, hkept, heffects⟩ task -
  have hsend := effects_send t task.1 task.2
  refine ⟨?_, (upload_send t task.1 task.2).trans hkept, heffects.trans hsend⟩
  rw [told_trans heffects hsend, told_send, List.append_nil, htold]

theorem flush_of_discreet (s : Session L S R) {out : Outbox} (h : out.Discreet) :
    s.flush out = s.post out := by
  rw [flush, h.upload]

/-- The upload goes on as before, and nothing is told of being busy. -/
structure Undisturbed (s t : Session L S R) : Prop where
  upload : t.upload = s.upload
  effects : s.effects <:+ t.effects
  unbusy : ∀ task, .busy task ∉ told s t

omit [CipherSuite] [Link L] [Radio R] in
theorem undisturbed_of_effects {s t : Session L S R} (upload : t.upload = s.upload)
    (effects : t.effects = s.effects) : Undisturbed s t where
  upload := upload
  effects := ⟨[], effects.symm⟩
  unbusy task := by
    rw [told_of_effects effects]
    exact List.not_mem_nil

theorem Undisturbed.send {s t : Session L S R} (h : Undisturbed s t) (task : String)
    (command : Command) : Undisturbed s (t.send task command).1 := by
  have hsend := effects_send t task command
  refine ⟨(upload_send t task command).trans h.upload, h.effects.trans hsend, fun task => ?_⟩
  rw [told_trans h.effects hsend, told_send, List.append_nil]
  exact h.unbusy task

theorem Undisturbed.flush {s t : Session L S R} (h : Undisturbed s t) {out : Outbox}
    (discreet : out.Discreet) : Undisturbed s (t.flush out) := by
  obtain ⟨htold, hupload, heffects⟩ := t.told_post out
  rw [t.flush_of_discreet discreet]
  refine ⟨hupload.trans h.upload, h.effects.trans heffects, fun task => ?_⟩
  rw [told_trans h.effects heffects, htold]
  exact fun hmem => (List.mem_append.1 hmem).elim (h.unbusy task) (discreet.unbusy task)

/-- What a payload does to the upload, and all that is told of that. -/
inductive Turn (s t : Session L S R) : Prop
  | kept (same : t.upload.job.map UploadJob.blob = s.upload.job.map UploadJob.blob)
      (unbusy : ∀ task, .busy task ∉ told s t)
  | begun (idle : s.upload = {}) (running : t.upload.job.isSome = true)
      (told : told s t = [.busy (some s.device.messages.updatingFirmware)])
  | unsent (idle : s.upload = {}) (nothing : t.upload = {})
      (told : told s t =
        .busy (some s.device.messages.updatingFirmware) :: s.device.ending false)
  | ended {job : UploadJob} (success : Bool) (running : s.upload.job = some job)
      (nothing : t.upload = {}) (told : told s t = s.device.ending success)
  | tornDown (nothing : t.upload = {}) (closed : t.state = .notConnected)
      (told : told s t = [.authenticationFailed, .connectionState .notConnected])

omit [CipherSuite] [Link L] [Radio R] in
theorem Undisturbed.turn {s t : Session L S R} (h : Undisturbed s t) : Turn s t :=
  .kept (by rw [h.upload]) h.unbusy

omit [CipherSuite] [Link L] [Radio R] in
theorem turn_refl (s : Session L S R) : Turn s s := (undisturbed_of_effects rfl rfl).turn

theorem Uploaded.turn {s t : Session L S R} {ack : Option Bytes} (uploaded : Uploaded s ack t) :
    Turn s t := by
  have hsending {job : UploadJob} (running : s.upload.job = some job) (size : Nat)
      (total index : UInt16) (link : L) (op : RadioOp) (progress : List RadioOp) :
      Turn s (s.wrote (s.upload.sending job size total index) link op progress) := by
    have htold : Session.told s
        (s.wrote (s.upload.sending job size total index) link op progress) = [] := told_submit _ _
    refine .kept ?_ (by rw [htold]; exact fun _ => List.not_mem_nil)
    rw [running]
    rfl
  cases uploaded with
  | ignored => exact turn_refl s
  | stopped _ running => exact .ended false running rfl (told_stopped s false)
  | first running => exact hsending running _ _ _ _ _ _
  | next running => exact hsending running _ _ _ _ _ _
  | completed running => exact .ended true running rfl (told_submit_stopped s _ true)

/-- The watch agrees: the upload begins, or its request cannot be sent and it has failed. -/
theorem turn_agreed {s : Session L S R} (h : s.Occupied) {image : FirmwareImage}
    (requested : s.device.install = .requested image) : Turn s (s.agreed image) := by
  have hidle := (h.of_requested requested).1
  have hupdating : s.effects <:+ (s.updating image).effects := List.suffix_cons _ _
  have hstarted := effects_startUpload (s.updating image)
    ⟨Upload.firmwareKind, image.bytes, .deviceService⟩
  rw [agreed]
  rcases told_startUpload (s.updating image)
    ⟨Upload.firmwareKind, image.bytes, .deviceService⟩ with ⟨htold, hrunning⟩ | ⟨htold, hover⟩
  · refine .begun hidle hrunning ?_
    rw [told_trans hupdating hstarted, told_updating, htold]
    rfl
  · refine .unsent hidle (hover.elim (fun h => h.trans hidle) id) ?_
    rw [told_trans hupdating hstarted, told_updating, htold]
    rfl

variable [Service S]

theorem undisturbed_onAuthenticated {s : Session L S R} (hosts : s.Hosts Outbox.Discreet)
    (host : HostView) (handshake : Handshake) :
    Undisturbed s (onAuthenticated { s with handshake := handshake } host) := by
  have hdiscreet : (DeviceService.greeting ++ (s.registry.onAuthenticated host).2).Discreet :=
    Registry.AnswersFor.discreet
      ((Registry.answersFor_of_plain DeviceService.plain_greeting).append
        (s.registry.answersFor_onAuthenticated host)) hosts
  have heffects : s.effects <:+ (s.opened handshake).effects :=
    (List.suffix_cons _ _).trans (List.suffix_cons _ _)
  have hopened : Undisturbed s
      { s.opened handshake with registry := (s.registry.onAuthenticated host).1 } :=
    { upload := rfl
      effects := heffects
      unbusy := fun task hmem => by
        have hsame : .busy task ∈ told s (s.opened handshake) := hmem
        rw [told_opened] at hsame
        cases List.mem_singleton.1 hsame }
  exact hopened.flush hdiscreet

theorem turn_handleAuth {s : Session L S R} (hosts : s.Hosts Outbox.Discreet) (host : HostView)
    (command : Command) : Turn s (s.handleAuth host command) := by
  have hsent (handshake : Handshake) (reply : Command) :
      Undisturbed s (send { s with handshake := handshake } "auth step" reply).1 := by
    have hkept : Undisturbed s { s with handshake := handshake } := undisturbed_of_effects rfl rfl
    exact hkept.send "auth step" reply
  have hreplied := s.replied host command
  generalize s.handleAuth host command = t at hreplied ⊢
  cases hreplied with
  | ignored => exact turn_refl s
  | refused => exact .tornDown rfl rfl (told_refused s _)
  | answered => exact (hsent _ _).turn
  | accepted => exact (undisturbed_onAuthenticated hosts host _).turn

omit [Service S] in
theorem turn_system {s : Session L S R} (h : s.Occupied) (command : Command) :
    Turn s (flush { s with device := (s.device.handle command).1 }
      (s.device.handle command).2.1) := by
  have hdevice (device : DeviceService) : Undisturbed s { s with device := device } :=
    undisturbed_of_effects rfl rfl
  have hreacted := s.device.reacted command
  generalize (s.device.handle command).1 = device at hreacted ⊢
  generalize (s.device.handle command).2.1 = out at hreacted ⊢
  cases hreacted with
  | plain _ plain => exact ((hdevice device).flush plain.discreet).turn
  | agreed requested => exact turn_agreed h requested
  | declined => exact (hdevice _).turn

theorem turn_dispatch {s : Session L S R} (h : s.Occupied) (hosts : s.Hosts Outbox.Discreet)
    (host : HostView) (command : Command) : Turn s (s.dispatch host command) := by
  rw [dispatch]
  split
  · exact turn_handleAuth hosts host command
  · exact turn_system h command
  · split
    · rename_i handled
      exact (uploaded_command h.heeded handled).turn
    · exact turn_refl s
  · rename_i index _
    have hregistry : Undisturbed s
        { s with registry := (s.registry.onCommand index host command).1 } :=
      undisturbed_of_effects rfl rfl
    exact (hregistry.flush
      ((s.registry.answersFor_onCommand host index command).discreet hosts)).turn
  · exact turn_refl s

/-- The list is complete. -/
theorem turn_handleInbound {s : Session L S R} (h : s.Occupied) (hosts : s.Hosts Outbox.Discreet)
    (host : HostView) (inbound : Inbound) : Turn s (s.handleInbound host inbound) := by
  cases inbound with
  | command bytes =>
      rw [handleInbound]
      split
      · exact turn_dispatch h hosts host _
      · exact turn_refl s
  | activity bytes =>
      refine .kept rfl fun task hmem => ?_
      rw [handleInbound, told_tell] at hmem
      cases List.mem_singleton.1 hmem
  | uploadAck ack => exact (uploaded_ack h.heeded ack).turn

/-! ## What other calls do to the upload -/

omit [Service S] in
theorem undisturbed_request (s : Session L S R) {out : Except LinkError Outbox}
    (h : ∀ box, out = .ok box → box.Plain) : Undisturbed s (s.request out).1 := by
  have hnothing : Undisturbed s s := undisturbed_of_effects rfl rfl
  unfold request
  split
  · split
    · exact hnothing.flush (h _ rfl).discreet
    · exact hnothing
  · exact hnothing

theorem undisturbed_sendConfiguration {s : Session L S R} (hosts : s.Hosts Outbox.Discreet)
    (host : HostView) (key : String) : Undisturbed s (s.sendConfiguration host key).1 := by
  have hplain := s.device.plain_configure host key
  have hregistry : Undisturbed s
      { s with registry := (s.registry.onConfiguration host key).1 } :=
    undisturbed_of_effects rfl rfl
  have hnothing : Undisturbed s s := undisturbed_of_effects rfl rfl
  rw [sendConfiguration]
  split
  · simp only
    split
    · exact hnothing.flush hplain.discreet
    · exact hregistry.flush (Registry.AnswersFor.discreet
        ((Registry.answersFor_of_plain hplain).append
          (s.registry.answersFor_onConfiguration host key)) hosts)
  · exact hnothing

omit [Service S] in
theorem undisturbed_installFirmware (s : Session L S R) (image : FirmwareImage) :
    Undisturbed s (s.installFirmware image).1 := by
  rcases installFirmware_cases s image with ⟨error, h⟩ | ⟨-, -, h⟩
  · rw [h]
    exact undisturbed_of_effects rfl rfl
  · have hasked : Undisturbed s
        { s with device := { s.device with install := .requested image } } :=
      undisturbed_of_effects rfl rfl
    rw [h]
    exact hasked.send _ _

/-- A call that is aside from what comes in and from the connection leaves the upload alone. -/
theorem undisturbed_perform {s : Session L S R} (hosts : s.Hosts Outbox.Discreet)
    (call : HostCall S R) (aside : call.isAside = true) :
    Undisturbed s (s.perform call).1 := by
  have hnothing {t : Session L S R} (upload : t.upload = s.upload)
      (effects : t.effects = s.effects) : Undisturbed s t := undisturbed_of_effects upload effects
  cases call with
  | connect => cases aside
  | disconnect => cases aside
  | mtuChanged => exact hnothing rfl rfl
  | register => exact hnothing rfl rfl
  | deliver => exact hnothing rfl rfl
  | processPending => cases aside
  | receive => cases aside
  | sendIn => exact hnothing rfl rfl
  | send task command => exact (hnothing rfl rfl).send task command
  | installFirmware image => exact undisturbed_installFirmware s image
  | sendConfiguration host key => exact undisturbed_sendConfiguration hosts host key
  | setCurrentTime host =>
      refine undisturbed_request s ?_
      rintro _ ⟨⟩
      exact DeviceService.plain_setCurrentTime host
  | findPhoneStop =>
      refine undisturbed_request s ?_
      rintro _ ⟨⟩
      exact Outbox.plain_ofCommand _ _
  | findWatch start => exact undisturbed_request s fun _ h => s.device.plain_findWatch h
  | setVibration type preset =>
      exact undisturbed_request s fun _ h => DeviceService.plain_setVibration h
  | radio => exact hnothing rfl rfl
  | inbox => exact hnothing rfl rfl

/-! ## Agreement -/

/-- What is kept in four places is the same in all of them. -/
structure Agrees (s : Session L S R) : Prop where
  install : s.upload.job.isSome = true ↔ ∃ image, s.device.install = .uploading image
  listener : s.upload.job.isSome = true ↔ s.upload.listener = some .deviceService
  busy : s.upload.job.isSome = true ↔ s.busy.isSome = true
  opened : s.device.install ≠ .idle → s.state = .initialized

omit [CipherSuite] [Link L] [Service S] [Radio R] in
theorem Occupied.agrees {s : Session L S R} (h : s.Occupied) : s.Agrees := by
  cases h with
  | free idle nothing unbusy =>
      exact
        { install := by simp [idle, nothing]
          listener := by simp [nothing]
          busy := by simp [nothing, unbusy]
          opened := fun hinstall => absurd idle hinstall }
  | asking requested nothing unbusy opened =>
      exact
        { install := by simp [requested, nothing]
          listener := by simp [nothing]
          busy := by simp [nothing, unbusy]
          opened := fun _ => opened }
  | uploading agreed running told opened =>
      exact
        { install := by simp [agreed, running]
          listener := by simp [running]
          busy := by simp [running, told]
          opened := fun _ => opened }

/-- After every run whose services are discreet the four places agree. Each payload that then comes
in has its turn, however many came in before it in the same call, and no other call but one that
starts or ends a connection touches the upload. -/
theorem agrees_run {link : L} {radio : R} {config : LinkConfig} {capabilities : Capabilities}
    {start : Session L S R} (hstart : ofConfig link radio config capabilities = .ok start)
    (calls : List (HostCall S R))
    (hadded : ∀ service, .register service ∈ calls →
      ∀ out, Service.Fills S out → out.Discreet) :
    (start.run calls).Agrees ∧
    (∀ t, Acts (start.run calls).clearEffects t → t.Agrees ∧
      ∀ host inbound, Turn t (t.handleInbound host inbound)) ∧
    ∀ call, call.isAside = true →
      Undisturbed (start.run calls).clearEffects
        ((start.run calls).clearEffects.perform call).1 := by
  have hfree : start.Occupied := by
    obtain ⟨secret, rfl⟩ := eq_of_ofConfig hstart
    exact .free rfl rfl rfl
  obtain ⟨hhosts, hoccupied⟩ := hfree.run (hosts_ofConfig hstart) calls hadded
  have hclear : (start.run calls).clearEffects.Hosts Outbox.Discreet ∧
      (start.run calls).clearEffects.Occupied :=
    ⟨hhosts, hoccupied.of_eq rfl rfl rfl id⟩
  refine ⟨hoccupied.agrees, ?_, fun call aside => undisturbed_perform hclear.1 call aside⟩
  intro t acts
  obtain ⟨hosts, occupied⟩ := acts.keep occupied_act hclear
  exact ⟨occupied.agrees, fun host inbound => turn_handleInbound occupied hosts host inbound⟩

end

end Session

/-! ## A service that answers -/

/-- A service that sends every command of its kind back. -/
structure Echo where
  kind : UInt8
  deriving DecidableEq

instance : Service Echo where
  commandType := Echo.kind
  onCommand echo _ command := (echo, .ofCommand "echo" command, .ok ())

theorem discreet_of_fills_echo {out : Outbox} (h : Service.Fills Echo out) : out.Discreet := by
  cases h with
  | authenticated => exact Outbox.plain_empty.discreet
  | command => exact (Outbox.plain_ofCommand _ _).discreet
  | configuration => exact Outbox.plain_empty.discreet

namespace Session

/-- A session that will find a watch of the clear-text layout, to which services may be added. -/
def openStart : Session GattLink Echo RadioQueue :=
  { clearTextStart with registry := {} }

theorem ofConfig_openStart : ofConfig {} {} bareConfig {} = .ok openStart := rfl

def heardByAll (kind subtype : UInt8) (body : Body) : HostCall Echo RadioQueue :=
  .receive bareHost (.resource (.ofShort 0x0001)) (Command.toBytes ⟨kind, subtype, body⟩)

/-- With a service added, the watch accepts the phone, sends the service a command and agrees to an
installation. -/
def echoedInstall : List (HostCall Echo RadioQueue) :=
  [.register ⟨50⟩, .connect clearTextWatch (.zero 16),
    heardByAll Command.authKind Handshake.userIdSubtype (.status 0),
    heardByAll 50 7 (.status 0), .installFirmware smallImage,
    heardByAll Command.systemKind DeviceService.installSubtype (.system (.installResponse 0))]

theorem install_echoedInstall :
    (openStart.run echoedInstall).device.install = .uploading smallImage ∧
    (openStart.run echoedInstall).registry.services = [⟨50⟩] := by
  decide +kernel

theorem agrees_run_echoedInstall :
    (openStart.run echoedInstall).registry.services = [⟨50⟩] ∧
    (openStart.run echoedInstall).upload.job.isSome = true ∧
    (openStart.run echoedInstall).busy.isSome = true ∧
    (openStart.run echoedInstall).state = .initialized ∧
    ∀ host inbound, Turn (openStart.run echoedInstall).clearEffects
      ((openStart.run echoedInstall).clearEffects.handleInbound host inbound) := by
  obtain ⟨hinstall, hadded⟩ := install_echoedInstall
  obtain ⟨hagrees, hturns, -⟩ :=
    agrees_run ofConfig_openStart echoedInstall fun _ _ _ => discreet_of_fills_echo
  have hrunning := hagrees.install.2 ⟨_, hinstall⟩
  exact ⟨hadded, hrunning, hagrees.busy.1 hrunning,
    hagrees.opened (by rw [hinstall]; nofun), (hturns _ .refl).2⟩

end Session

end WatchLink
