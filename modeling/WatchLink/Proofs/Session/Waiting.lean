import WatchLink.Proofs.Session.Uploading

/-!
# What a session waits for

The handshake waits for the watch's nonce, for its word on the user or for its verdict on the
phone's proof; an installation waits for the watch to agree, an upload to start. Whatever is waited
for was asked for in the call since which it is waited for. For the hello and for the request of an
upload that means the radio took the message: if it refuses, connecting and starting the upload are
given up. The phone's proof and the request of an installation are waited on whatever the radio
said, so an installation whose request was refused stands in the way of every later one.
-/

namespace WatchLink.Session

open Relation

section

variable {L S R : Type} [CipherSuite] [Link L] [Service S] [Radio R]

/-- A command was to be sent: it could not be written, or the radio was asked for it. -/
def Tried (task : String) (command : Command) (s t : Session L S R) : Prop :=
  (∃ e, (Link.writeCommand s.link command s.handshake.cipher?).Fails s.link e) ∨
  ∃ link op, (Link.writeCommand s.link command s.handshake.cipher?).Puts link op ∧
    t.AskedFor ⟨task, [op]⟩

/-- The watch's nonce came in, and the phone's proof was to be sent. -/
def ProofTried (s t : Session L S R) : Prop :=
  ∃ command reply handshake, s.handshake.handle command = (handshake, .ok (some (.send reply))) ∧
    Tried "auth step" reply { s with handshake := handshake } t

/-- The radio took everything up to the hello, as the link that was settled on writes it. -/
def HelloTaken (discovery : Discovery) (hello : Command) (s t : Session L S R) : Prop :=
  ∃ link mode next op, Link.bind s.ready.link discovery = (link, .ok mode) ∧
    (Link.writeCommand (Link.resetCounters link) hello none).Puts next op ∧
    .submitted ⟨"initialize", Link.startup (Link.resetCounters link) ++ [op]⟩ ∈ t.effects

theorem ProofTried.moves (u s t : Session L S R) (h : ProofTried u s) (moves : Moves s t) :
    ProofTried u t := by
  obtain ⟨command, reply, handshake, handled, htried⟩ := h
  refine ⟨command, reply, handshake, handled, htried.imp_right ?_⟩
  rintro ⟨link, op, hwritten, hasked⟩
  exact ⟨link, op, hwritten, hasked.moves moves⟩

omit [Service S] in
theorem tried_send (s : Session L S R) (task : String) (command : Command) :
    Tried task command s (s.send task command).1 := by
  cases Link.writeCommand_allOrNothing s.link command s.handshake.cipher? with
  | fails e failed => exact .inl ⟨e, failed⟩
  | puts link endpoint data made =>
      refine .inr ⟨link, _, made, ?_⟩
      rw [send_of_puts made]
      exact askedFor_submit _ _

/-! ## The handshake -/

/-- The hello whose answer a handshake waits for. -/
def hello? (s : Session L S R) : Option Command :=
  match s.handshake.state with
  | .awaitingWatchNonce nonce =>
    some ⟨Command.authKind, Handshake.nonceSubtype, .auth (.phoneNonce nonce)⟩
  | .awaitingUserIdAck =>
    some ⟨Command.authKind, Handshake.userIdSubtype, .auth (.userId s.handshake.userId)⟩
  | _ => none

/-- What an act can do to the handshake. -/
inductive HandshakeMoved (s t : Session L S R) : Prop
  | same (handshake : t.handshake = s.handshake) (state : t.state = s.state)
  | answered (awaits : s.handshake.state.awaits = true)
      (awaiting : t.handshake.state = .awaitingAuthResult) (state : t.state = s.state)
      (tried : ProofTried s t)
  | accepted (authenticated : t.handshake.state = .authenticated) (state : t.state = .initialized)
  | refused (idle : t.handshake.state = .idle)

omit [Service S] in
theorem standing_startUpload (s : Session L S R) (request : UploadRequest) :
    (s.startUpload request).handshake = s.handshake ∧
      (s.startUpload request).state = s.state := by
  have hstarted := uploadStarted s request
  generalize s.startUpload request = t at hstarted ⊢
  cases hstarted with
  | busy =>
      cases request.listener
      exact ⟨rfl, rfl⟩
  | unsent => exact ⟨handshake_send _ _ _, state_send _ _ _⟩
  | sent => exact ⟨handshake_send _ _ _, state_send _ _ _⟩

omit [Service S] in
theorem Uploaded.standing {s t : Session L S R} {ack : Option Bytes}
    (uploaded : Uploaded s ack t) : t.handshake = s.handshake ∧ t.state = s.state := by
  cases uploaded <;> exact ⟨rfl, rfl⟩

/-- The list is complete. -/
theorem handshakeMoved {s t : Session L S R} (act : Act s t) (heeded : s.Heeded) :
    HandshakeMoved s t := by
  have hsame (h : t.handshake = s.handshake ∧ t.state = s.state) : HandshakeMoved s t :=
    .same h.1 h.2
  cases act with
  | acknowledge ack => exact hsame (uploaded_ack heeded ack).standing
  | inbox => exact hsame ⟨rfl, rfl⟩
  | receive => exact hsame ⟨rfl, rfl⟩
  | resync => exact hsame ⟨rfl, rfl⟩
  | deed deed =>
      cases deed with
      | tell => exact hsame ⟨rfl, rfl⟩
      | device => exact hsame ⟨rfl, rfl⟩
      | registry => exact hsame ⟨rfl, rfl⟩
      | send => exact hsame ⟨handshake_send _ _ _, state_send _ _ _⟩
      | startUpload request => exact hsame (standing_startUpload s request)
      | agree => exact hsame (standing_startUpload _ _)
      | decline => exact hsame ⟨rfl, rfl⟩
      | command handled => exact hsame (uploaded_command heeded handled).standing
      | @answer command reply handshake handled =>
          refine .answered (Handshake.awaits_of_send handled).1 ?_ ?_ ?_
          · rw [handshake_send]
            exact Handshake.state_of_send handled
          · exact state_send { s with handshake := handshake } "auth step" reply
          · exact ⟨command, reply, handshake, handled, tried_send _ _ _⟩
      | accept handled => exact .accepted (Handshake.state_of_authenticated handled) rfl
      | refuse => exact .refused rfl

/-- Nothing is awaited of a watch that is not connected. -/
def Quiet (s : Session L S R) : Prop := s.state = .notConnected → s.handshake.state = .idle

theorem Quiet.act {s t : Session L S R} (h : s.Quiet) (act : Act s t) (heeded : s.Heeded) :
    t.Quiet := by
  intro hstate
  cases handshakeMoved act heeded with
  | same handshake state => rw [handshake, h (state.symm.trans hstate)]
  | answered awaits _ state =>
      rw [h (state.symm.trans hstate)] at awaits
      cases awaits
  | accepted _ state =>
      rw [state] at hstate
      cases hstate
  | refused idle => exact idle

omit [CipherSuite] [Radio R] in
theorem Quiet.ready {s : Session L S R} (h : s.Quiet) : s.ready.handshake.state = .idle := by
  rcases s.ready_cases with ⟨hstate, hready⟩ | hready
  · rw [hready]
    exact h hstate
  · rw [hready]
    rfl

omit [CipherSuite] in
/-- Connecting leaves nothing awaited, or it has said hello. -/
theorem handshake_connect_cases {s : Session L S R} (h : s.Quiet) (discovery : Discovery)
    (nonce : Octets 16) :
    (s.connect discovery nonce).1.handshake.state = .idle ∨
    ∃ mode, (s.connect discovery nonce).1.handshake = (s.ready.handshake.start mode nonce).1 ∧
      (s.connect discovery nonce).1.state = .initializing ∧
      HelloTaken discovery (s.ready.handshake.start mode nonce).2 s
        (s.connect discovery nonce).1 := by
  have hconnected := s.connected discovery nonce
  generalize (s.connect discovery nonce).1 = t at hconnected ⊢
  cases hconnected with
  | unbound => exact .inl h.ready
  | unwritten => exact .inl rfl
  | refused => exact .inl rfl
  | @greeted link next mode op bound written taken =>
      refine .inr ⟨mode, rfl, rfl, link, mode, next, op, bound, written, ?_⟩
      refine List.mem_cons_of_mem _ ?_
      simp only [saidHello, submit] at taken ⊢
      rw [taken]
      exact List.mem_cons_self

/-- A call other than connecting is acts as far as the handshake is concerned, or leaves it as it
is, or ends it. -/
theorem acts_or_handshake (s : Session L S R) (call : HostCall S R)
    (hother : ∀ discovery nonce, call ≠ .connect discovery nonce) :
    Acts s (s.perform call).1 ∨
    ((s.perform call).1.handshake = s.handshake ∧ (s.perform call).1.state = s.state) ∨
    (s.perform call).1.handshake.state = .idle := by
  have hhappened := s.happened call
  generalize (s.perform call).1 = t at hhappened ⊢
  generalize s.moments call = moments at hhappened
  cases hhappened with
  | connect discovery nonce => exact absurd rfl (hother discovery nonce)
  | disconnect => exact .inr (.inr rfl)
  | mtuChanged => exact .inr (.inl ⟨rfl, rfl⟩)
  | radio => exact .inr (.inl ⟨rfl, rfl⟩)
  | sendIn => exact .inr (.inl ⟨rfl, rfl⟩)
  | register => exact .inr (.inl ⟨rfl, rfl⟩)
  | install => exact .inr (.inl ⟨handshake_send _ _ _, state_send _ _ _⟩)
  | inbox => exact .inr (.inl ⟨rfl, rfl⟩)
  | deeds deeds => exact .inl deeds.acts
  | processPending host => exact .inl (acts_processAtMost host _ s)
  | receive host endpoint data => exact .inl (acts_onReceive s host endpoint data)

theorem Quiet.perform {s : Session L S R} (h : s.Quiet) (heeded : s.Heeded)
    (call : HostCall S R) : (s.perform call).1.Quiet := by
  by_cases hconnect : ∃ discovery nonce, call = .connect discovery nonce
  · obtain ⟨discovery, nonce, rfl⟩ := hconnect
    intro hstate
    rcases handshake_connect_cases h discovery nonce with hidle | ⟨_, -, hinitializing, -⟩
    · exact hidle
    · exact absurd (hinitializing.symm.trans hstate) nofun
  · rcases s.acts_or_handshake call (fun d n h => hconnect ⟨d, n, h⟩) with
      hacts | ⟨hhandshake, hstate⟩ | hidle
    · exact (hacts.keep (P := fun t => t.Heeded ∧ t.Quiet)
        (fun s t act h => ⟨h.1.act s t act, h.2.act act h.1⟩) ⟨heeded, h⟩).2
    · intro hnot
      rw [hhandshake]
      exact h (hstate.symm.trans hnot)
    · exact fun _ => hidle

theorem Reachable.quiet {s : Session L S R} (h : s.Reachable) : s.Quiet := by
  induction h with
  | ofConfig hs =>
      obtain ⟨secret, rfl⟩ := eq_of_ofConfig hs
      exact fun _ => rfl
  | @perform s hreachable call ih =>
      have hclear : s.clearEffects.Quiet := ih
      have hheeded : s.clearEffects.Heeded := hreachable.heeded
      exact hclear.perform hheeded call

omit [CipherSuite] [Link L] [Service S] [Radio R] in
theorem hello?_of_start {s : Session L S R} {h : Handshake} {mode : HandshakeMode}
    {nonce : Octets 16} (hs : s.handshake = (h.start mode nonce).1) :
    s.hello? = some (h.start mode nonce).2 := by
  rw [hello?, hs]
  cases mode <;> rfl

omit [CipherSuite] [Link L] [Service S] [Radio R] in
theorem hello?_of_state {s : Session L S R}
    (h : s.handshake.state = .idle ∨ s.handshake.state = .authenticated ∨
      s.handshake.state = .awaitingAuthResult) : s.hello? = none := by
  rw [hello?]
  rcases h with h | h | h <;> rw [h]

theorem hello?_act {hello : Command} (s t : Session L S R) (act : Act s t) (heeded : s.Heeded)
    (h : t.hello? = some hello) : s.hello? = some hello := by
  cases handshakeMoved act heeded with
  | same handshake =>
      rw [hello?, handshake] at h
      exact h
  | answered _ awaiting =>
      exact absurd ((hello?_of_state (.inr (.inr awaiting))).symm.trans h) nofun
  | accepted authenticated =>
      exact absurd ((hello?_of_state (.inr (.inl authenticated))).symm.trans h) nofun
  | refused idle => exact absurd ((hello?_of_state (.inl idle)).symm.trans h) nofun

/-- A hello that is waited on was taken by the radio in the last call that connected. -/
theorem hello_since {start : Session L S R} {link : L} {radio : R} {config : LinkConfig}
    {capabilities : Capabilities} (hstart : ofConfig link radio config capabilities = .ok start)
    {hello : Command} (calls : List (HostCall S R))
    (h : (start.run calls).hello? = some hello) :
    start.Since
      (fun found call t => t.hello? = some hello ∧
        ∃ discovery nonce, call = .connect discovery nonce ∧ HelloTaken discovery hello found t)
      (fun call t => t.hello? = some hello ∧ ∀ discovery nonce, call ≠ .connect discovery nonce)
      calls := by
  refine since_of_run (P := fun t => t.hello? = some hello) (.ofConfig hstart) ?_ ?_ calls h
  · obtain ⟨secret, rfl⟩ := eq_of_ofConfig hstart
    nofun
  · intro s hs call hafter
    have hquiet : s.clearEffects.Quiet := hs.quiet
    have hheeded : s.clearEffects.Heeded := hs.heeded
    by_cases hconnect : ∃ discovery nonce, call = .connect discovery nonce
    · obtain ⟨discovery, nonce, rfl⟩ := hconnect
      left
      refine ⟨hafter, discovery, nonce, rfl, ?_⟩
      rcases handshake_connect_cases hquiet discovery nonce with hidle | ⟨mode, hmode, -, htaken⟩
      · exact absurd ((hello?_of_state (.inl hidle)).symm.trans hafter) nofun
      · obtain rfl := Option.some.inj ((hello?_of_start hmode).symm.trans hafter)
        exact htaken
    · right
      have hother (discovery : Discovery) (nonce : Octets 16) : call ≠ .connect discovery nonce :=
        fun heq => hconnect ⟨discovery, nonce, heq⟩
      refine ⟨?_, hafter, hother⟩
      rcases s.clearEffects.acts_or_handshake call hother with hacts | ⟨hhandshake, -⟩ | hidle
      · exact hacts.found (P := fun t => t.hello? = some hello) Heeded.act hello?_act hheeded hafter
      · rw [hello?, hhandshake] at hafter
        exact hafter
      · rw [hello?_of_state (.inl hidle)] at hafter
        cases hafter

theorem verdict_act (s t : Session L S R) (act : Act s t) (heeded : s.Heeded)
    (h : t.handshake.state = .awaitingAuthResult) :
    s.handshake.state = .awaitingAuthResult ∨ OnTheWay ProofTried s t := by
  cases handshakeMoved act heeded with
  | same handshake =>
      rw [handshake] at h
      exact .inl h
  | answered _ _ _ tried => exact .inr ⟨s, .refl, tried⟩
  | accepted authenticated => exact absurd (authenticated.symm.trans h) nofun
  | refused idle => exact absurd (idle.symm.trans h) nofun

/-- The verdict is waited for since a call in which the phone's proof was to be sent. -/
theorem verdict_since {start : Session L S R} {link : L} {radio : R} {config : LinkConfig}
    {capabilities : Capabilities} (hstart : ofConfig link radio config capabilities = .ok start)
    (calls : List (HostCall S R))
    (h : (start.run calls).handshake.state = .awaitingAuthResult) :
    start.Since
      (fun found _ t => t.handshake.state = .awaitingAuthResult ∧ OnTheWay ProofTried found t)
      (fun call t => t.handshake.state = .awaitingAuthResult ∧
        ∀ discovery nonce, call ≠ .connect discovery nonce) calls := by
  refine since_of_run (P := fun t => t.handshake.state = .awaitingAuthResult) (.ofConfig hstart)
    ?_ ?_ calls h
  · obtain ⟨secret, rfl⟩ := eq_of_ofConfig hstart
    nofun
  · intro s hs call hafter
    have hquiet : s.clearEffects.Quiet := hs.quiet
    have hheeded : s.clearEffects.Heeded := hs.heeded
    by_cases hconnect : ∃ discovery nonce, call = .connect discovery nonce
    · obtain ⟨discovery, nonce, rfl⟩ := hconnect
      rcases handshake_connect_cases hquiet discovery nonce with hidle | ⟨mode, hmode, -⟩
      · exact absurd (hidle.symm.trans hafter) nofun
      · have hstate := congrArg Handshake.state hmode
        cases mode <;> exact absurd (hstate.symm.trans hafter) nofun
    · have hother (discovery : Discovery) (nonce : Octets 16) : call ≠ .connect discovery nonce :=
        fun heq => hconnect ⟨discovery, nonce, heq⟩
      rcases s.clearEffects.acts_or_handshake call hother with hacts | ⟨hhandshake, -⟩ | hidle
      · rcases hacts.cause (P := fun t => t.handshake.state = .awaitingAuthResult) Heeded.act
          verdict_act ProofTried.moves hheeded hafter with hfound | htried
        · exact .inr ⟨hfound, hafter, hother⟩
        · exact .inl ⟨hafter, htried⟩
      · have hbefore : s.handshake.state = .awaitingAuthResult := by
          rw [hhandshake] at hafter
          exact hafter
        exact .inr ⟨hbefore, hafter, hother⟩
      · exact absurd (hidle.symm.trans hafter) nofun

/-! ## Installations and uploads -/

def installRequest (image : FirmwareImage) : Command :=
  DeviceService.message DeviceService.installSubtype
    (.installRequest image.version image.md5Hex)

/-- What was the installation is left as it is or is over. -/
def InstallKept (s t : Session L S R) : Prop :=
  t.device.install = s.device.install ∨ t.device.install = .idle

omit [Service S] in
theorem installKept_startUpload (s : Session L S R) (request : UploadRequest) :
    InstallKept s (s.startUpload request) := by
  have hstarted := uploadStarted s request
  generalize s.startUpload request = t at hstarted ⊢
  cases hstarted with
  | busy =>
      cases request.listener
      exact .inr rfl
  | unsent => exact .inr rfl
  | sent => exact .inl (congrArg _ (device_send _ _ _))

omit [Service S] in
theorem Uploaded.install {s t : Session L S R} {ack : Option Bytes} (uploaded : Uploaded s ack t) :
    InstallKept s t := by
  cases uploaded with
  | ignored => exact .inl rfl
  | stopped => exact .inr rfl
  | first => exact .inl rfl
  | next => exact .inl rfl
  | completed => exact .inr rfl

/-- An act leaves the installation as it is or ends it, or the watch agrees to the one asked for. -/
theorem install_act_cases {s t : Session L S R} (act : Act s t) (heeded : s.Heeded) :
    InstallKept s t ∨ ∃ image, s.device.install = .requested image ∧
      t.device.install = .uploading image := by
  cases act with
  | acknowledge ack => exact .inl (uploaded_ack heeded ack).install
  | inbox => exact .inl (.inl rfl)
  | receive => exact .inl (.inl rfl)
  | resync => exact .inl (.inl rfl)
  | deed deed =>
      cases deed with
      | tell => exact .inl (.inl rfl)
      | device device install => exact .inl (.inl install)
      | registry => exact .inl (.inl rfl)
      | send => exact .inl (.inl (congrArg _ (device_send _ _ _)))
      | startUpload request => exact .inl (installKept_startUpload s request)
      | @agree image requested =>
          rcases installKept_startUpload (s.updating image) _ with hsame | hidle
          · exact .inr ⟨image, requested, hsame⟩
          · exact .inl (.inr hidle)
      | decline => exact .inl (.inr rfl)
      | command handled => exact .inl (uploaded_command heeded handled).install
      | answer => exact .inl (.inl (congrArg _ (device_send _ _ _)))
      | accept => exact .inl (.inl rfl)
      | refuse => exact .inl (.inr rfl)

/-- No act asks for an installation. -/
theorem install_act {image : FirmwareImage} (s t : Session L S R) (act : Act s t)
    (heeded : s.Heeded) (h : t.device.install = .requested image) :
    s.device.install = .requested image := by
  rcases install_act_cases act heeded with (hsame | hidle) | ⟨agreed, -, huploading⟩
  · exact hsame.symm.trans h
  · exact absurd (hidle.symm.trans h) nofun
  · exact absurd (huploading.symm.trans h) nofun

/-- Where nothing is installed, acts change nothing about that. -/
theorem Acts.idle {s t : Session L S R} (h : Acts s t) (heeded : s.Heeded)
    (idle : s.device.install = .idle) : t.device.install = .idle := by
  have hkeep : t.Heeded ∧ t.device.install = .idle := by
    refine Acts.keep (P := fun u => u.Heeded ∧ u.device.install = .idle) ?_ h ⟨heeded, idle⟩
    rintro s t act ⟨hheeded, hidle⟩
    refine ⟨hheeded.act s t act, ?_⟩
    rcases install_act_cases act hheeded with (hsame | hover) | ⟨image, hrequested, -⟩
    · exact hsame.trans hidle
    · exact hover
    · exact absurd (hidle.symm.trans hrequested) nofun
  exact hkeep.2

omit [CipherSuite] in
theorem installKept_connect (s : Session L S R) (discovery : Discovery) (nonce : Octets 16) :
    InstallKept s (s.connect discovery nonce).1 := by
  have hready : InstallKept s s.ready := by
    rcases s.ready_cases with ⟨-, hready⟩ | hready
    · exact .inl (by rw [hready]; rfl)
    · exact .inr (by rw [hready]; rfl)
  have hconnected := s.connected discovery nonce
  generalize (s.connect discovery nonce).1 = t at hconnected ⊢
  cases hconnected with
  | unbound => exact hready
  | unwritten => exact .inr rfl
  | refused => exact .inr rfl
  | greeted => exact hready

/-- An installation whose request waits for the watch was asked for in the call that named it. -/
theorem install_since {start : Session L S R} {link : L} {radio : R} {config : LinkConfig}
    {capabilities : Capabilities} (hstart : ofConfig link radio config capabilities = .ok start)
    {image : FirmwareImage} (calls : List (HostCall S R))
    (h : (start.run calls).device.install = .requested image) :
    start.Since
      (fun found call t => t.device.install = .requested image ∧ call = .installFirmware image ∧
        Tried s!"install firmware {image.version}" (installRequest image) found t)
      (fun _ t => t.device.install = .requested image) calls := by
  refine since_of_run (P := fun t => t.device.install = .requested image) (.ofConfig hstart)
    ?_ ?_ calls h
  · obtain ⟨secret, rfl⟩ := eq_of_ofConfig hstart
    nofun
  · intro s hs call hafter
    have hheeded : s.clearEffects.Heeded := hs.heeded
    have hhappened := s.clearEffects.happened call
    generalize (s.clearEffects.perform call).1 = t at hhappened hafter ⊢
    generalize s.clearEffects.moments call = moments at hhappened
    have hacts (acts : Acts s.clearEffects t) :
        s.clearEffects.device.install = .requested image :=
      Acts.found (P := fun t => t.device.install = .requested image) Heeded.act install_act acts
        hheeded hafter
    cases hhappened with
    | connect discovery nonce =>
        rcases s.clearEffects.installKept_connect discovery nonce with hsame | hidle
        · exact .inr ⟨hsame.symm.trans hafter, hafter⟩
        · exact absurd (hidle.symm.trans hafter) nofun
    | disconnect => cases hafter
    | mtuChanged => exact .inr ⟨hafter, hafter⟩
    | radio => exact .inr ⟨hafter, hafter⟩
    | sendIn => exact .inr ⟨hafter, hafter⟩
    | register => exact .inr ⟨hafter, hafter⟩
    -- The only call that asks, taken or not: the wait starts here.
    | @install asked =>
        have hinstall : (s.clearEffects.requested asked).device.install = .requested asked :=
          congrArg DeviceService.install (device_send _ _ _)
        obtain rfl := InstallState.requested.inj (hinstall.symm.trans hafter)
        exact .inl ⟨hafter, rfl, tried_send
          { s.clearEffects with device := { s.device with install := .requested asked } } _ _⟩
    | inbox => exact .inr ⟨hafter, hafter⟩
    | deeds deeds => exact .inr ⟨hacts deeds.acts, hafter⟩
    | processPending host => exact .inr ⟨hacts (acts_processAtMost host _ _), hafter⟩
    | receive host endpoint data => exact .inr ⟨hacts (acts_onReceive _ host endpoint data), hafter⟩

/-- The radio took the request of an upload of this job. -/
def RequestTaken (job : UploadJob) (s t : Session L S R) : Prop :=
  ∃ file, job.blob = Upload.blob job.kind file ∧
    Took "upload request" (uploadRequest job.kind file) s t

/-- An upload that waits to start was requested of the watch, and the radio took the request. -/
theorem upload_since {start : Session L S R} {link : L} {radio : R} {config : LinkConfig}
    {capabilities : Capabilities} (hstart : ofConfig link radio config capabilities = .ok start)
    {job : UploadJob} (calls : List (HostCall S R)) (h : (start.run calls).upload.job = some job)
    (hphase : job.phase = .awaitingAck) :
    start.Since
      (fun found _ t => t.upload.job = some job ∧ OnTheWay (RequestTaken job) found t)
      (fun _ t => t.upload.job = some job) calls := by
  refine since_job hstart ?_ ?_ calls h
  · intro s t act heeded hafter
    cases uploadMoved act heeded with
    | same upload =>
        rw [upload] at hafter
        exact .inl hafter
    | ended upload =>
        rw [upload] at hafter
        cases hafter
    | requested kind file upload took =>
        rw [upload] at hafter
        cases hafter
        obtain ⟨u, hmoves, htook⟩ := took
        exact .inr ⟨u, hmoves, file, rfl, htook⟩
    | wrote _ upload =>
        rw [upload] at hafter
        cases hafter
        cases hphase
  · rintro u s t ⟨file, hblob, htook⟩ moves
    exact ⟨file, hblob, htook.moves u s t moves⟩

/-- Whatever a session waits for was asked for in the call since which it waits. The radio took the
hello and the request of an upload; the phone's proof and the request of an installation were to be
sent, and while the latter is waited on no other installation is accepted. -/
theorem waiting_since {link : L} {radio : R} {config : LinkConfig} {capabilities : Capabilities}
    {start : Session L S R} (hstart : ofConfig link radio config capabilities = .ok start)
    (calls : List (HostCall S R)) :
    (∀ hello, (start.run calls).hello? = some hello →
      start.Since
        (fun found call t => t.hello? = some hello ∧
          ∃ discovery nonce, call = .connect discovery nonce ∧ HelloTaken discovery hello found t)
        (fun call t => t.hello? = some hello ∧ ∀ discovery nonce, call ≠ .connect discovery nonce)
        calls) ∧
    ((start.run calls).handshake.state = .awaitingAuthResult →
      start.Since
        (fun found _ t => t.handshake.state = .awaitingAuthResult ∧ OnTheWay ProofTried found t)
        (fun call t => t.handshake.state = .awaitingAuthResult ∧
          ∀ discovery nonce, call ≠ .connect discovery nonce) calls) ∧
    (∀ job, (start.run calls).upload.job = some job → job.phase = .awaitingAck →
      start.Since
        (fun found _ t => t.upload.job = some job ∧ OnTheWay (RequestTaken job) found t)
        (fun _ t => t.upload.job = some job) calls) ∧
    ∀ image, (start.run calls).device.install = .requested image →
      start.Since
        (fun found call t => t.device.install = .requested image ∧ call = .installFirmware image ∧
          Tried s!"install firmware {image.version}" (installRequest image) found t)
        (fun _ t => t.device.install = .requested image) calls ∧
      ∀ other, ∃ e, (start.run calls).installFirmware other = (start.run calls, .error e) := by
  refine ⟨fun hello => hello_since hstart calls, verdict_since hstart calls,
    fun job => upload_since hstart calls, ?_⟩
  intro image h
  refine ⟨install_since hstart calls h, ?_⟩
  intro other
  rcases installFirmware_cases (start.run calls) other with hrefused | ⟨-, hidle, -⟩
  · exact hrefused
  · exact absurd (hidle.symm.trans h) nofun

end

/-! ## A request that nobody has -/

/-- The radio is down while the host asks for an installation, and up again when it asks once more.
-/
def refusedInstall : List (HostCall DeviceService RadioQueue) :=
  meeting ++ [.radio { offline := true }, .installFirmware smallImage, .radio {}]

theorem install_refusedInstall :
    (clearTextStart.run refusedInstall).device.install = .requested smallImage := by
  decide +kernel

/-- The installation waits for an answer to a request that no radio has taken, and no other can be
asked for. -/
theorem waiting_refusedInstall :
    (clearTextStart.run refusedInstall).device.install = .requested smallImage ∧
    (∀ before ∈ refusedInstall.inits, ∀ transaction ∈ (clearTextStart.run before).transactions,
      transaction.name ≠ "install firmware 1.0") ∧
    (((clearTextStart.run refusedInstall).installFirmware smallImage).2.toOption).isNone := by
  refine ⟨install_refusedInstall, ?_, ?_⟩
  · decide +kernel
  · decide +kernel

theorem waiting_since_refusedInstall :
    clearTextStart.Since
      (fun found call t => t.device.install = .requested smallImage ∧
        call = .installFirmware smallImage ∧
        Tried "install firmware 1.0" (installRequest smallImage) found t)
      (fun _ t => t.device.install = .requested smallImage) refusedInstall :=
  ((waiting_since ofConfig_clearTextStart refusedInstall).2.2.2 smallImage
    install_refusedInstall).1

end WatchLink.Session
